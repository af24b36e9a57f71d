import Multirotor.Instrument.Panel
import Multirotor.Pilot.Autopilot

/-!
# Configurations

Everything that determines an aircraft, and what follows from it: the speeds of its rotors, the
thrust they deliver and the timestep in microseconds.  `Configuration.check` refuses what cannot be
simulated.
-/

namespace Multirotor

/-- Everything that determines an aircraft. -/
structure Configuration (α : Type) where
  /-- In seconds. -/
  timeStep : α
  mass : α
  /-- Principal moments of inertia. -/
  inertia : Vec3 α
  /-- Bounding box of the airframe. -/
  bodySize : Vec3 α
  drag : Drag α
  gravity : α
  startPosition : Vec3 α
  /-- In degrees. -/
  startAngles : Euler α
  attitude : AttitudeKind
  integration : IntegrationScheme
  rotorCount : UInt64
  mounts : List (Mount α)
  rotor : RotorConstants α
  rotorRadius : α
  /-- Feeds the motors in place of the first-order lag. -/
  battery : Option (Battery α)
  instruments : PanelSettings α
  magneticField : MagneticField α
  reference : GeoReference α
  bounds : Option (Bounds α)
  groundEffect : Option (GroundEffect α)
  manualControl : Bool
  collisionDetection : Bool
  groundContact : Bool
  useWeather : Bool
  /-- The duties are given with every tick and the autopilot is off. -/
  directDuties : Bool
  mode : ControlMode
  pilot : PilotParameters α
  noiseSeed : Option UInt64
  deriving DecidableEq, Repr

/-- Settings that take the place of configured ones. -/
structure Overrides where
  noiseSeed : Option UInt64
  mode : Option ControlMode
  directDuties : Option Bool
  deriving DecidableEq, Repr

namespace Configuration

variable {α : Type} [Scalar α]

open Scalar

/-- A small quadrotor with its rotors at the corners of a square. -/
def standard : Configuration α :=
  { timeStep := 0.001
    mass := 1
    inertia := ⟨0.0061, 0.00653, 0.0116⟩
    bodySize := ⟨0.3, 0.3, 0.1⟩
    drag := { linear := 0.05, quadratic := 0 }
    gravity := standardGravity
    startPosition := 0
    startAngles := 0
    attitude := .euler
    integration := .explicitEuler
    rotorCount := 4
    mounts :=
      [{ position := ⟨0.1, 0.1, 0⟩, ccw := 1 },
       { position := ⟨-0.1, 0.1, 0⟩, ccw := -1 },
       { position := ⟨-0.1, -0.1, 0⟩, ccw := 1 },
       { position := ⟨0.1, -0.1, 0⟩, ccw := -1 }]
    rotor := .standard
    rotorRadius := 0.05
    battery := none
    instruments := .standard
    magneticField := .standard
    reference := .standard
    bounds := none
    groundEffect := none
    manualControl := false
    collisionDetection := true
    groundContact := true
    useWeather := false
    directDuties := false
    mode := .scripted
    pilot := .standard
    noiseSeed := none }

/-- The configuration with some settings replaced. -/
def override {α : Type} (c : Configuration α) (o : Overrides) : Configuration α :=
  { c with
    noiseSeed := o.noiseSeed <|> c.noiseSeed
    mode := o.mode.getD c.mode
    directDuties := o.directDuties.getD c.directDuties }

/-! ### Derived values -/

/-- The properties of the airframe. -/
def airframe (c : Configuration α) : Airframe α :=
  { mass := c.mass
    inertia := c.inertia
    gravity := c.gravity
    drag := c.drag
    rotorRadius := c.rotorRadius }

/-- The switches of the body. -/
def bodyOptions (c : Configuration α) : BodyOptions α :=
  { manualControl := c.manualControl
    collisionDetection := c.collisionDetection
    groundContact := c.groundContact
    integration := c.integration
    bounds := c.bounds
    groundEffect := c.groundEffect }

/-- The first attitude in radians. -/
def startAttitude (c : Configuration α) : Euler α :=
  ⟨radians c.startAngles.roll, radians c.startAngles.pitch, radians c.startAngles.yaw⟩

/-- The speed at which the rotors carry the airframe. -/
def hoverSpeed (c : Configuration α) : α :=
  Multirotor.hoverSpeed c.mass c.gravity c.rotor.thrustCoefficient c.rotorCount.toNat

/-- The speed of full duty, twice that of hovering. -/
def maxRotorSpeed (c : Configuration α) : α := 2.0 * c.hoverSpeed

/-- The time constant of a rotor with a lag. -/
def rotorTimeConstant (c : Configuration α) : α := c.rotor.timeConstant c.hoverSpeed

/-- The gain of a rotor with a lag. -/
def rotorGain (c : Configuration α) : α := c.maxRotorSpeed / c.rotorTimeConstant

/-- The thrust of all rotors at full speed. -/
def maxThrust (c : Configuration α) : α :=
  c.rotor.thrustCoefficient * (c.rotorCount.toNat : α) * c.maxRotorSpeed * c.maxRotorSpeed

/-- The timestep in microseconds. -/
def timeStepMicros (c : Configuration α) : UInt64 := microseconds c.timeStep

/-- How the autopilot finds the duty for a speed. -/
def dutyCurve (c : Configuration α) : DutyCurve α :=
  match c.battery with
  | some battery => .battery battery c.rotor
  | none => .proportional c.maxRotorSpeed

/-! ### Checks -/

/-- Refuses a timestep that is not a positive whole number of microseconds. -/
def checkTimeStep (c : Configuration α) : Except (Fault α) Unit :=
  if ¬ 0 < c.timeStep then .error (.timeStep c.timeStep)
  else
    let micros := c.timeStep * 1e6
    let whole := round micros
    if whole < 1 ∨ 1e-6 < abs (micros - whole) then .error (.fractionalTimeStep c.timeStep)
    else .ok ()

/-- Refuses what the duties would be divided by unless it is positive: without gravity there is no
speed of hovering, and a battery drives nothing without a voltage and a motor constant. -/
def checkDrive (c : Configuration α) : Except (Fault α) Unit :=
  if ¬ 0 < c.gravity ∧ c.directDuties = false then .error (.gravity c.gravity)
  else
    match c.battery with
    | some battery =>
      if ¬ 0 < battery.voltage then .error (.batteryVoltage battery.voltage)
      else if ¬ 0 < c.rotor.motorConstant then .error (.motorConstant c.rotor.motorConstant)
      else .ok ()
    | none => .ok ()

/-- Refuses a count that differs from the number of mounts. -/
def checkRotorCount (c : Configuration α) : Except (Fault α) Unit :=
  if c.mounts.length = c.rotorCount.toNat then .ok ()
  else .error (.rotorCount c.rotorCount.toNat c.mounts.length)

/-- Refuses everything that makes an aircraft impossible to simulate; the first fault counts. -/
def check (c : Configuration α) : Except (Fault α) Unit := do
  c.checkTimeStep
  c.airframe.check
  c.rotor.check
  c.checkDrive
  c.checkRotorCount
  c.instruments.check

end Configuration

end Multirotor
