import Multirotor.Aircraft.Flight
import Multirotor.Storage.Configuration

/-!
# Telemetry

An aircraft and its parts as documents that are shown and not read back.  The parts that several of
them share, those of the body and of the pilot, are lists of fields, to be joined into one record.
-/

namespace Multirotor

namespace Telemetry

open Codec

variable {α : Type} [Scalar α]

/-! ### Numbers

A stored number is always finite; a number that is shown may be anything, and what JSON has no notation
for is written as one of the words `nan`, `inf` and `-inf`. -/

/-- A number, or the word for it. -/
def number (x : α) : Document α :=
  if Scalar.isNaN x then .text "nan"
  else if Scalar.isFinite x then .real x
  else .text (if x < 0 then "-inf" else "inf")

/-- Several numbers. -/
def numbers (xs : List α) : Document α := .list (xs.map number)

/-- A vector as three numbers. -/
def vector (v : Vec3 α) : Document α := numbers v.toList

/-- Roll, pitch and yaw. -/
def angles (e : Euler α) : Document α := vector e.toVec3

/-- The three imaginary parts and the real one. -/
def quaternion (q : Quaternion α) : Document α := numbers [q.i, q.j, q.k, q.w]

/-- A matrix by rows. -/
def matrix (m : Mat3 α) : Document α := .list [vector m.r1, vector m.r2, vector m.r3]

/-- Several truth values. -/
def flags {α : Type} (bs : List Bool) : Document α := .list (bs.map .bool)

/-- A natural number. -/
def count {α : Type} (n : Nat) : Document α := .integer (Int.ofNat n)

/-- A word as a natural number. -/
def word {α : Type} (n : UInt64) : Document α := count n.toNat

/-- What may be missing; null stands for it then. -/
def orNull {α β : Type} (f : β → Document α) : Option β → Document α
  | some x => f x
  | none => .null

/-! ### Parts -/

/-- A thrust and a torque. -/
def wrench (w : Wrench α) : Document α :=
  .record [("thrust", number w.thrust), ("torque", vector w.torque)]

/-- The state of a rotor. -/
def spin (s : Spin α) : Document α :=
  .record
    [("omega", number s.speed), ("omega_acc", number s.acceleration), ("duty", number s.duty),
     ("current", orNull number s.current)]

/-- A position with its velocities. -/
def motion (m : Motion α) : Document α :=
  .record
    [("position", vector m.position), ("velocity", vector m.velocity),
     ("angular_velocity", vector m.angularVelocity)]

/-- What a body is like at the point of contact. -/
def collider (c : Collider α) : Document α :=
  .record
    [("velocity", vector c.velocity), ("angular_velocity", vector c.angularVelocity),
     ("contact_vector", vector c.contactVector), ("contact_velocity", vector c.contactVelocity),
     ("mass", number c.mass), ("inverse_inertia", matrix c.inverseInertia)]

/-- A roll and a pitch. -/
def tilt (t : Tilt α) : Document α := .record [("roll", number t.roll), ("pitch", number t.pitch)]

/-- The sticks and the buttons. -/
def transmitter (t : Transmitter α) : List (String × Document α) :=
  [("sticks", numbers t.sticks.toList), ("buttons", flags t.pressed.toList)]

/-- What a pilot remembers between ticks. -/
def pilot (a : Autopilot α) : List (String × Document α) :=
  transmitter a.transmitter ++
    [("api_target",
      orNull (fun w => numbers [w.north, w.east, w.altitude, w.yaw, w.speed]) a.waypoint)]

/-- What a loop has last computed, with its integral. -/
def loop (p : Pid α) : List (String × Document α) :=
  let t := p.terms
  [("integrator", number p.integrator),
   ("info", numbers [t.target, t.actual, t.error, t.proportional, t.integral, t.derivative]),
   ("limit", .bool t.saturated)]

/-! ### Instruments -/

/-- What a satellite receiver shows, with the course as it is. -/
def gpsWith (s : GpsSample α) (course : Document α) : Document α :=
  .record
    [("latitude_deg", number s.latitude), ("longitude_deg", number s.longitude),
     ("altitude", number s.altitude), ("velocity", vector s.velocity),
     ("ground_speed", number s.groundSpeed), ("course_deg", course)]

/-- What a satellite receiver shows; a course means nothing without speed. -/
def gps (s : GpsSample α) : Document α :=
  gpsWith s (if s.groundSpeed < 1e-9 then .null else number s.course)

/-- What a barometer shows. -/
def barometer (s : BarometerSample α) : Document α :=
  .record
    [("abs_pressure", number s.absolutePressure), ("diff_pressure", number s.differentialPressure),
     ("pressure_alt", number s.height)]

/-- What an instrument shows. -/
def reading : Reading α → Document α
  | .accelerometer v | .gyroscope v | .magnetometer v => vector v
  | .gps s => gps s
  | .barometer s => barometer s

/-- What all instruments show. -/
def panel (p : Panel α) : Document α :=
  .record
    [("accelerometer", reading (p.read .accelerometer)), ("gyroscope", reading (p.read .gyroscope)),
     ("gps", reading (p.read .gps)), ("barometer", reading (p.read .barometer)),
     ("magnetometer", reading (p.read .magnetometer)), ("noiseless_atm", number p.pressureAtm)]

/-! ### Bodies and aircraft -/

/-- The state of a body. -/
def body (b : RigidBody α) : List (String × Document α) :=
  [("position", vector b.position), ("euler", angles b.angles),
   ("quaternion", quaternion b.attitude.toQuaternion), ("body_velocity", vector b.velocity),
   ("ground_velocity", vector b.groundVelocity), ("angular_velocity", vector b.angularVelocity),
   ("acceleration", vector b.acceleration), ("pending", .bool b.pending.isSome)]

/-- How an aircraft was built. -/
def build (a : Aircraft α) : List (String × Document α) :=
  [("mode", encode a.autopilot.mode), ("direct_rotor_control", .bool a.config.directDuties),
   ("noise_seed", encode a.config.noiseSeed), ("attitude", encode a.body.attitude.kind),
   ("time_step_usec", word a.dtMicros), ("battery", .bool (a.rotors.any (·.isOnBattery))),
   ("mixer_rotors", count a.autopilot.mixer.rotorCount), ("mass", number a.body.airframe.mass),
   ("dt", number a.body.dt), ("max_speed", number a.autopilot.parameters.maxSpeed),
   ("ct", orNull number (a.rotors.head?.map (·.constants.thrustCoefficient)))]

/-- The state of an aircraft. -/
def aircraft (a : Aircraft α) : List (String × Document α) :=
  body a.body ++ pilot a.autopilot ++
    [("ticks", word a.ticks), ("time_usec", word a.time), ("elapsed_secs", number a.elapsed),
     ("rotors", .list (a.rotors.map (spin ·.spin))), ("thrusts", numbers a.rotorThrusts),
     ("wrench", wrench a.propulsion.wrench), ("demand", wrench a.demand),
     ("duty", numbers a.duties), ("sensors", panel a.panel)]

/-- What an aircraft was given for a tick. -/
def input (i : AircraftInput α) : Document α :=
  .record
    [("duty", orNull numbers i.duties), ("manual", .bool i.manual.isSome),
     ("disturbance", .bool i.weather.isSome), ("target", .bool i.target.isSome),
     ("wrench", orNull wrench i.wrench)]

end Telemetry

end Multirotor
