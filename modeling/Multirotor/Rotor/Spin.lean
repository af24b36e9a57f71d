import Multirotor.Rotor.Motor

/-!
# Spinning rotors

A rotor with its state, advanced one tick at a time.  The duty is held between zero and one and the
speed never falls below zero; the recorded acceleration is the change of speed that took place.
-/

namespace Multirotor

variable {α : Type}

/-- The state of a rotor after a tick. -/
structure Spin (α : Type) where
  /-- Angular speed. -/
  speed : α
  /-- Change of speed over the tick. -/
  acceleration : α
  duty : α
  /-- Current drawn from a battery. -/
  current : Option α
  deriving DecidableEq, Repr

/-- A rotor of an aircraft. -/
structure Rotor (α : Type) where
  drive : Drive α
  constants : RotorConstants α
  maxSpeed : α
  dt : α
  spin : Spin α
  deriving DecidableEq, Repr

section Thrust

variable [Scalar α]

/-- Thrust of blades at `speed` in air of pressure `atm`. -/
def bladeThrust (thrustCoefficient speed atm : α) : α := thrustCoefficient * speed * speed * atm

/-- Torque on the body about down from the drag of the blades and from speeding them up. -/
def bladeReaction (torqueCoefficient inertia speed acceleration ccw : α) : α :=
  ccw * (torqueCoefficient * speed * speed + inertia * acceleration)

end Thrust

namespace Spin

variable [Scalar α]

/-- A rotor at rest. -/
def rest : Spin α := { speed := 0, acceleration := 0, duty := 0, current := none }

end Spin

namespace Rotor

variable [Scalar α]

/-- A rotor at rest. -/
def atRest (drive : Drive α) (constants : RotorConstants α) (maxSpeed dt : α) : Rotor α :=
  { drive, constants, maxSpeed, dt, spin := .rest }

/-- A rotor that settles at `maxSpeed` under full duty. -/
def lag (constants : RotorConstants α) (maxSpeed timeConstant dt : α) :
    Except (Fault α) (Rotor α) := do
  constants.check
  if timeConstant ≤ 0 then .error (.timeConstant timeConstant)
  else .ok (atRest (.lag (maxSpeed / timeConstant) timeConstant) constants maxSpeed dt)

/-- A rotor whose motor is fed by a battery. -/
def onBattery (constants : RotorConstants α) (source : Battery α) (maxSpeed dt : α) :
    Except (Fault α) (Rotor α) := do
  constants.check
  .ok (atRest (.battery source) constants maxSpeed dt)

/-- Angular acceleration and current at `speed` and `duty`.  A given voltage replaces that of the
battery; a rotor with a lag has none. -/
def respond (r : Rotor α) (voltage : Option α) (speed duty : α) : α × Option α :=
  match r.drive with
  | .lag gain timeConstant => (lagAcceleration gain timeConstant speed duty, none)
  | .battery source =>
    let v := voltage.getD source.voltage
    let c := r.constants
    (c.acceleration v speed duty,
      some (RotorConstants.current c.resistance c.motorConstant v speed duty))

/-- One tick at a duty, with the voltage of the battery or a given one. -/
def step (r : Rotor α) (duty : α) (voltage : Option α) : Rotor α :=
  let duty := Scalar.clamp duty 0 1
  let speed := r.spin.speed
  let (acceleration, current) := r.respond voltage speed duty
  let next := Scalar.larger (speed + acceleration * r.dt) 0
  { r with spin := { speed := next, acceleration := (next - speed) / r.dt, duty, current } }

/-- One tick at a duty. -/
def run (r : Rotor α) (duty : α) : Rotor α := r.step duty none

/-- Thrust in air of pressure `atm`. -/
def thrust (r : Rotor α) (atm : α) : α :=
  bladeThrust r.constants.thrustCoefficient r.spin.speed atm

/-- Torque on the body about down when the rotor spins in the direction `ccw`. -/
def reaction (r : Rotor α) (ccw : α) : α :=
  bladeReaction r.constants.torqueCoefficient r.constants.inertia r.spin.speed r.spin.acceleration
    ccw

/-- Whether a battery feeds the motor. -/
def isOnBattery (r : Rotor α) : Bool :=
  match r.drive with
  | .lag .. => false
  | .battery _ => true

/-- How fast the rotor speeds up under full duty; a rotor on a battery has no fixed gain. -/
def gain? (r : Rotor α) : Option α :=
  match r.drive with
  | .lag gain _ => some gain
  | .battery _ => none

/-- The rotor at rest. -/
def reset (r : Rotor α) : Rotor α := { r with spin := .rest }

end Rotor

end Multirotor
