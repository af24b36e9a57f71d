import Multirotor.Instrument.Triad
import Multirotor.Space.Euler

/-!
# Inertial instruments

The accelerometer shows the specific force in the body frame: the change of the body velocity with
the term for the turning frame, less gravity.  At rest that is gravity upward.  The gyroscope shows
the angular velocity.
-/

namespace Multirotor

/-- What an accelerometer senses in one tick. -/
structure InertialMotion (α : Type) where
  /-- In the body frame. -/
  velocity : Vec3 α
  /-- In the body frame. -/
  angularVelocity : Vec3 α
  angles : Euler α
  deriving DecidableEq, Repr

/-- An accelerometer. -/
structure Accelerometer (α : Type) where
  triad : Triad α
  dt : α
  gravity : α
  /-- The body velocity of the last tick. -/
  previous : Option (Vec3 α)
  value : Vec3 α

/-- A gyroscope. -/
structure Gyroscope (α : Type) where
  triad : Triad α
  value : Vec3 α

variable {α : Type} [Scalar α]

namespace Accelerometer

/-- The accelerometer before the first tick. -/
def build (s : InstrumentSettings α) (dt gravity : α) (seed : Option UInt64)
    (r : Randomness α) : Except (Fault α) (Accelerometer α) := do
  let triad ← Triad.build s seed r
  .ok { triad, dt, gravity, previous := none, value := 0 }

/-- The specific force in the body frame.  In the first tick the velocity has not changed. -/
def specificForce (a : Accelerometer α) (m : InertialMotion α) : Vec3 α :=
  let change : Vec3 α :=
    match a.previous with
    | some previous => (m.velocity - previous) / a.dt
    | none => 0
  change + m.angularVelocity.cross m.velocity - m.angles.toBody (.vertical a.gravity)

/-- One tick. -/
def run (a : Accelerometer α) (m : InertialMotion α) : Accelerometer α :=
  let (value, triad) := (a.triad.add (a.specificForce m)).read
  { a with triad, previous := some m.velocity, value }

/-- The accelerometer before the first tick. -/
def reset (a : Accelerometer α) : Accelerometer α :=
  { a with triad := a.triad.reset, previous := none, value := 0 }

end Accelerometer

namespace Gyroscope

/-- The gyroscope before the first tick. -/
def build (s : InstrumentSettings α) (seed : Option UInt64) (r : Randomness α) :
    Except (Fault α) (Gyroscope α) := do
  let triad ← Triad.build s seed r
  .ok { triad, value := 0 }

/-- One tick. -/
def run (g : Gyroscope α) (angularVelocity : Vec3 α) : Gyroscope α :=
  let (value, triad) := (g.triad.add angularVelocity).read
  { triad, value }

/-- The gyroscope before the first tick. -/
def reset (g : Gyroscope α) : Gyroscope α := { triad := g.triad.reset, value := 0 }

end Gyroscope

end Multirotor
