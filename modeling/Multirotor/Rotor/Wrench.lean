import Multirotor.Rotor.Spin
import Multirotor.Space.Vector

/-!
# The wrench of the rotors

The rotors of an aircraft pull along the upward axis of the body and turn it: by the moments of
their thrusts, by the drag of the blades and by speeding up.  `Propulsion` keeps the wrench of the
last tick.
-/

namespace Multirotor

/-- Where a rotor is mounted and how it spins. -/
structure Mount (α : Type) where
  /-- Hub in the body frame. -/
  position : Vec3 α
  /-- Direction of spin, one or minus one. -/
  ccw : α
  deriving DecidableEq, Repr

/-- A thrust along the upward axis of the body and a torque. -/
structure Wrench (α : Type) where
  thrust : α
  torque : Vec3 α
  deriving DecidableEq, Repr

/-- The rotors' mounts with the wrench that was last computed. -/
structure Propulsion (α : Type) where
  mounts : List (Mount α)
  constants : RotorConstants α
  wrench : Wrench α
  deriving DecidableEq, Repr

variable {α : Type} [Scalar α]

instance : Zero (Wrench α) := ⟨{ thrust := 0, torque := 0 }⟩

/-- The sum of the thrusts.  It starts at minus zero, which leaves every number as it is, the sign
of a zero included: thrusts that are all minus zero add up to minus zero. -/
def totalThrust (thrusts : List α) : α := thrusts.foldl (· + ·) (-0)

/-- The sum of the moments of the thrusts and the torques about down of the rotors. -/
def totalTorque (contributions : List (Mount α × α × α)) : Vec3 α :=
  contributions.foldl
    (fun torque (mount, thrust, reaction) =>
      torque + mount.position.cross (Vec3.vertical (-thrust)) + Vec3.vertical reaction)
    0

/-- Thrust of all rotors at the given speeds in air of pressure `atm`. -/
def bodyThrust (thrustCoefficient : α) (speeds : List α) (atm : α) : α :=
  totalThrust (speeds.map (bladeThrust thrustCoefficient · atm))

/-- Torque of the mounted rotors in the given states in air of pressure `atm`. -/
def bodyTorque (c : RotorConstants α) (mounts : List (Mount α)) (spins : List (Spin α)) (atm : α) :
    Vec3 α :=
  totalTorque ((mounts.zip spins).map fun (mount, spin) =>
    (mount, bladeThrust c.thrustCoefficient spin.speed atm,
      bladeReaction c.torqueCoefficient c.inertia spin.speed spin.acceleration mount.ccw))

/-! ### Blades whose thrust and drag are linear in the speed -/

/-- Thrust that is linear in the speed. -/
def linearThrust (thrustCoefficient speed : α) : α := thrustCoefficient * speed

/-- Torque on the body about down from drag that is linear in the speed. -/
def linearReaction (torqueCoefficient speed ccw : α) : α := ccw * torqueCoefficient * speed

/-- Thrust of all rotors when it is linear in the speed. -/
def bodyThrustLinear (thrustCoefficient : α) (speeds : List α) : α :=
  totalThrust (speeds.map (linearThrust thrustCoefficient))

/-- Torque of the mounted rotors when thrust and drag are linear in the speed. -/
def bodyTorqueLinear (thrustCoefficient torqueCoefficient : α) (mounts : List (Mount α))
    (speeds : List α) : Vec3 α :=
  totalTorque ((mounts.zip speeds).map fun (mount, speed) =>
    (mount, linearThrust thrustCoefficient speed,
      linearReaction torqueCoefficient speed mount.ccw))

namespace Propulsion

/-- The mounts before the first tick. -/
def idle (mounts : List (Mount α)) (constants : RotorConstants α) : Propulsion α :=
  { mounts, constants, wrench := 0 }

/-- The wrench of rotors in the given states. -/
def wrenchOf (p : Propulsion α) (spins : List (Spin α)) (atm : α) : Wrench α :=
  { thrust := bodyThrust p.constants.thrustCoefficient (spins.map (·.speed)) atm
    torque := bodyTorque p.constants p.mounts spins atm }

/-- Computes and keeps the wrench of rotors in the given states. -/
def run (p : Propulsion α) (spins : List (Spin α)) (atm : α) : Propulsion α :=
  { p with wrench := p.wrenchOf spins atm }

/-- Forgets the wrench. -/
def reset (p : Propulsion α) : Propulsion α := { p with wrench := 0 }

end Propulsion

end Multirotor
