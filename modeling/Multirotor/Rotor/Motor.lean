import Multirotor.Fault

/-!
# Motors

The electrical and mechanical constants shared by the rotors of an aircraft, and how a duty drives the
speed of a rotor: through a first-order lag, or through a motor on a battery.  `Battery.steadyDuty` is
the duty that keeps a speed.
-/

namespace Multirotor

/-- The constants of a motor and its blades. -/
structure RotorConstants (α : Type) where
  /-- Resistance of the winding. -/
  resistance : α
  /-- Air torque per squared speed. -/
  torqueCoefficient : α
  /-- Thrust per squared speed. -/
  thrustCoefficient : α
  /-- Voltage per speed, and torque per current. -/
  motorConstant : α
  /-- Friction torque per speed. -/
  friction : α
  /-- Moment of inertia of the spinning parts. -/
  inertia : α
  deriving DecidableEq, Repr

namespace RotorConstants

variable {α : Type} [Scalar α]

/-- The constants of a small motor. -/
def standard : RotorConstants α :=
  { resistance := 0.1
    torqueCoefficient := 1.5e-7
    thrustCoefficient := 1.0e-5
    motorConstant := 3.3e-3
    friction := 1.0e-5
    inertia := 1.0e-5 }

/-- Refuses a resistance, an inertia or a thrust coefficient that is zero or less. -/
def check (c : RotorConstants α) : Except (Fault α) Unit :=
  if c.resistance ≤ 0 then .error (.resistance c.resistance)
  else if c.inertia ≤ 0 then .error (.rotorInertia c.inertia)
  else if c.thrustCoefficient ≤ 0 then .error (.thrustCoefficient c.thrustCoefficient)
  else .ok ()

/-- The time constant of the motor linearized around the speed `hover`. -/
def timeConstant (c : RotorConstants α) (hover : α) : α :=
  c.inertia * c.resistance /
    (c.friction * c.resistance + c.motorConstant * c.motorConstant +
      2.0 * c.resistance * c.torqueCoefficient * hover)

end RotorConstants

/-- The speed at which `count` rotors carry `mass` against `gravity`. -/
def hoverSpeed {α : Type} [Scalar α] (mass gravity thrustCoefficient : α) (count : Nat) : α :=
  Scalar.sqrt (mass * gravity / (thrustCoefficient * (count : α)))

/-! ## Drives -/

/-- A battery of constant voltage. -/
structure Battery (α : Type) where
  voltage : α
  deriving DecidableEq, Repr

/-- What turns a duty into a torque on the rotor. -/
inductive Drive (α : Type) where
  /-- Speed approaches `gain · timeConstant · duty` exponentially. -/
  | lag (gain timeConstant : α)
  /-- A motor on a battery. -/
  | battery (source : Battery α)
  deriving DecidableEq, Repr

variable {α : Type} [Scalar α]

/-- Angular acceleration of a rotor that follows its duty with a lag. -/
def lagAcceleration (gain timeConstant speed duty : α) : α := gain * duty - speed / timeConstant

namespace RotorConstants

/-- Angular acceleration under a voltage: the drive less the induced voltage, the torque of the air
and the friction. -/
def acceleration (c : RotorConstants α) (voltage speed duty : α) : α :=
  let drive := voltage * c.motorConstant / c.resistance * duty
  let induced := c.motorConstant * c.motorConstant * speed / c.resistance
  (drive - induced - c.torqueCoefficient * speed * speed - c.friction * speed) / c.inertia

/-- Current drawn by the motor. -/
def current (resistance motorConstant voltage speed duty : α) : α :=
  (voltage * duty - motorConstant * speed) / resistance

end RotorConstants

/-- The duty at which the motor keeps `speed`. -/
def Battery.steadyDuty (b : Battery α) (c : RotorConstants α) (speed : α) : α :=
  let load := c.motorConstant * c.motorConstant * speed / c.resistance +
    c.torqueCoefficient * speed * speed + c.friction * speed
  load * c.resistance / (b.voltage * c.motorConstant)

end Multirotor
