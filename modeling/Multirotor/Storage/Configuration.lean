import Multirotor.Aircraft.Configuration
import Multirotor.Storage.Body
import Multirotor.Storage.Instrument
import Multirotor.Storage.Pilot

/-!
# Stored configurations

A configuration as a document; what is not there falls back to the standard configuration.
-/

namespace Multirotor

open Document

variable {α : Type} [Scalar α]

/-- The keys of a configuration, in order. -/
def Configuration.keys : List String :=
  ["time_step", "mass", "inertia", "body_size", "drag", "gravity", "initial_position",
   "initial_angle_deg", "attitude", "integration", "rotor_count", "rotors", "rotor",
   "rotor_radius", "battery", "sensors", "magnetic_field", "reference", "out_of_bounds_reset",
   "boundary_disturbance", "manual_control", "collision_detection", "ground_contact",
   "enable_disturbance", "direct_rotor_control", "control_mode", "control", "noise_seed"]

instance : Codec α (Configuration α) where
  encode c := .record
    [("time_step", encode c.timeStep),
     ("mass", encode c.mass),
     ("inertia", encode c.inertia),
     ("body_size", encode c.bodySize),
     ("drag", encode c.drag),
     ("gravity", encode c.gravity),
     ("initial_position", encode c.startPosition),
     ("initial_angle_deg", encode c.startAngles),
     ("attitude", encode c.attitude),
     ("integration", encode c.integration),
     ("rotor_count", encode c.rotorCount),
     ("rotors", encode c.mounts),
     ("rotor", encode c.rotor),
     ("rotor_radius", encode c.rotorRadius),
     ("battery", encode c.battery),
     ("sensors", encode c.instruments),
     ("magnetic_field", encode c.magneticField),
     ("reference", encode c.reference),
     ("out_of_bounds_reset", encode c.bounds),
     ("boundary_disturbance", encode c.groundEffect),
     ("manual_control", encode c.manualControl),
     ("collision_detection", encode c.collisionDetection),
     ("ground_contact", encode c.groundContact),
     ("enable_disturbance", encode c.useWeather),
     ("direct_rotor_control", encode c.directDuties),
     ("control_mode", encode c.mode),
     ("control", encode c.pilot),
     ("noise_seed", encode c.noiseSeed)]
  decode d := do
    let r ← d.fields Configuration.keys
    let fallback : Configuration α := .standard
    return {
      timeStep := ← optional r "time_step" fallback.timeStep
      mass := ← optional r "mass" fallback.mass
      inertia := ← optional r "inertia" fallback.inertia
      bodySize := ← optional r "body_size" fallback.bodySize
      drag := ← optional r "drag" fallback.drag
      gravity := ← optional r "gravity" fallback.gravity
      startPosition := ← optional r "initial_position" fallback.startPosition
      startAngles := ← optional r "initial_angle_deg" fallback.startAngles
      attitude := ← optional r "attitude" fallback.attitude
      integration := ← optional r "integration" fallback.integration
      rotorCount := ← optional r "rotor_count" fallback.rotorCount
      mounts := ← optional r "rotors" fallback.mounts
      rotor := ← optional r "rotor" fallback.rotor
      rotorRadius := ← optional r "rotor_radius" fallback.rotorRadius
      battery := ← optional r "battery" fallback.battery
      instruments := ← optional r "sensors" fallback.instruments
      magneticField := ← optional r "magnetic_field" fallback.magneticField
      reference := ← optional r "reference" fallback.reference
      bounds := ← optional r "out_of_bounds_reset" fallback.bounds
      groundEffect := ← optional r "boundary_disturbance" fallback.groundEffect
      manualControl := ← optional r "manual_control" fallback.manualControl
      collisionDetection := ← optional r "collision_detection" fallback.collisionDetection
      groundContact := ← optional r "ground_contact" fallback.groundContact
      useWeather := ← optional r "enable_disturbance" fallback.useWeather
      directDuties := ← optional r "direct_rotor_control" fallback.directDuties
      mode := ← optional r "control_mode" fallback.mode
      pilot := ← optional r "control" fallback.pilot
      noiseSeed := ← optional r "noise_seed" fallback.noiseSeed }

/-! ## Settings by path

A single number of a configuration is named by a path of keys with dots between them, such as
`rotor.ct` or `sensors.gps.noise_variance`. -/

namespace Configuration

/-- The configuration with the number at a path replaced; none when there is no such path.  A voltage
brings in a battery where there was none. -/
def assign? (c : Configuration α) (path : String) (x : α) : Option (Configuration α) :=
  match path.splitOn "." with
  | ["time_step"] => some { c with timeStep := x }
  | ["mass"] => some { c with mass := x }
  | ["gravity"] => some { c with gravity := x }
  | ["inertia", "0"] => some { c with inertia.x := x }
  | ["inertia", "1"] => some { c with inertia.y := x }
  | ["inertia", "2"] => some { c with inertia.z := x }
  | ["rotor", "r"] => some { c with rotor.resistance := x }
  | ["rotor", "j"] => some { c with rotor.inertia := x }
  | ["rotor", "ct"] => some { c with rotor.thrustCoefficient := x }
  | ["rotor", "cq"] => some { c with rotor.torqueCoefficient := x }
  | ["rotor", "k"] => some { c with rotor.motorConstant := x }
  | ["rotor", "d"] => some { c with rotor.friction := x }
  | ["battery", "nominal_voltage"] => some { c with battery := some { voltage := x } }
  | ["sensors", name, "noise_variance"] => do
    let kind : InstrumentKind ← decode (.text name : Document α)
    return { c with
      instruments := c.instruments.set kind { c.instruments.get kind with noiseVariance := x } }
  | _ => none

end Configuration

end Multirotor
