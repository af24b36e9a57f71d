import Multirotor.Air
import Multirotor.Space.Euler

/-!
# Motion

What is seen of a body in a tick, the laws of its motion, and the bounds that the motion is held in.
-/

namespace Multirotor

/-- The state of the body in one tick. -/
structure Observation (α : Type) where
  /-- In the ground frame. -/
  position : Vec3 α
  /-- In the ground frame. -/
  groundVelocity : Vec3 α
  /-- In the body frame. -/
  bodyVelocity : Vec3 α
  /-- In the body frame. -/
  angularVelocity : Vec3 α
  angles : Euler α
  weather : Option (Weather α)
  deriving DecidableEq, Repr

/-! ## Accelerations

Newton's law for the forces on a multirotor, in the body frame and in the ground frame, and Euler's
law for its rotation about the principal axes.  The body frame turns, so its law has the additional
term `-ω × v`. -/

/-- The forces on a body and its mass. -/
structure Forces (α : Type) where
  /-- Thrust along the upward axis of the body. -/
  thrust : α
  mass : α
  gravity : α
  /-- Wind in the ground frame. -/
  wind : Vec3 α
  drag : Drag α
  /-- Any other force, in the ground frame. -/
  external : Vec3 α
  deriving DecidableEq, Repr

variable {α : Type} [Scalar α]

namespace Forces

/-- Acceleration in the body frame at the velocity `v` and the angular velocity `w` of that frame. -/
def bodyAcceleration (f : Forces α) (e : Euler α) (v w : Vec3 α) : Vec3 α :=
  let toBody := e.rotation.transpose
  let thrust := Vec3.vertical (-f.thrust)
  let weight := toBody.apply (Vec3.vertical (f.mass * f.gravity))
  let friction := f.drag.force (v - toBody.apply f.wind)
  (thrust + weight + friction + toBody.apply f.external) / f.mass - w.cross v

/-- Acceleration in the ground frame at the velocity `v` of that frame. -/
def groundAcceleration (f : Forces α) (e : Euler α) (v : Vec3 α) : Vec3 α :=
  let thrust := e.toGround (Vec3.vertical (-f.thrust))
  let weight := Vec3.vertical (f.mass * f.gravity)
  let friction := f.drag.force (v - f.wind)
  (thrust + weight + friction + f.external) / f.mass

end Forces

/-- The angular acceleration under a torque of a body that turns at `w`, in the frame of its
principal moments of inertia. -/
def angularAcceleration (w torque inertia : Vec3 α) : Vec3 α :=
  (torque - w.cross (inertia.mul w)).div inertia

/-! ## Bounds

The motion of a body may run out of bounds: a component may stop being a finite number or exceed a
limit.  The axes that are flagged for it are then put back to where they started. -/

/-- The motion that is held within bounds. -/
structure Motion (α : Type) where
  /-- In the ground frame. -/
  position : Vec3 α
  /-- In the ground frame. -/
  velocity : Vec3 α
  /-- In the body frame. -/
  angularVelocity : Vec3 α
  deriving DecidableEq, Repr

/-- Which axes are put back, and the limits on the distance from the origin, the speed and the turn
rate along any axis. -/
structure Bounds (α : Type) where
  position : Vec3 Bool
  velocity : Vec3 Bool
  angularVelocity : Vec3 Bool
  positionLimit : α
  velocityLimit : α
  angularVelocityLimit : α
  deriving DecidableEq, Repr

instance : Zero (Motion α) := ⟨{ position := 0, velocity := 0, angularVelocity := 0 }⟩

namespace Bounds

/-- Wide limits and no axis flagged. -/
def standard : Bounds α :=
  { position := .all false
    velocity := .all false
    angularVelocity := .all false
    positionLimit := 10000.0
    velocityLimit := 1000.0
    angularVelocityLimit := 1000.0 }

/-- Some component is not finite or beyond the limit. -/
def exceeds (limit : α) (v : Vec3 α) : Bool :=
  v.toList.any fun x => !Scalar.isFinite x || decide (limit < Scalar.abs x)

/-- Whether the motion is out of bounds. -/
def isDiverged (b : Bounds α) (m : Motion α) : Bool :=
  exceeds b.positionLimit m.position || exceeds b.velocityLimit m.velocity ||
    exceeds b.angularVelocityLimit m.angularVelocity

/-- A flagged value that differs from its start. -/
def moved (flag : Bool) (value start : α) : Bool := flag && value != start

/-- The value, or its start where it is flagged. -/
def putBack (flags : Vec3 Bool) (value start : Vec3 α) : Vec3 α :=
  let axis (flag : Bool) (value start : α) : α := if moved flag value start then start else value
  { x := axis flags.x value.x start.x
    y := axis flags.y value.y start.y
    z := axis flags.z value.z start.z }

/-- Whether putting back changes anything. -/
def anyMoved (flags : Vec3 Bool) (value start : Vec3 α) : Bool :=
  moved flags.x value.x start.x || moved flags.y value.y start.y || moved flags.z value.z start.z

/-- The motion with every flagged axis put back, and whether any of them had moved. -/
def restore (b : Bounds α) (m start : Motion α) : Motion α × Bool :=
  ({ position := putBack b.position m.position start.position
     velocity := putBack b.velocity m.velocity start.velocity
     angularVelocity := putBack b.angularVelocity m.angularVelocity start.angularVelocity },
    anyMoved b.position m.position start.position ||
      anyMoved b.velocity m.velocity start.velocity ||
      anyMoved b.angularVelocity m.angularVelocity start.angularVelocity)

/-- The motion put back if it is out of bounds, and whether that changed it. -/
def confine (b : Bounds α) (m start : Motion α) : Motion α × Bool :=
  if b.isDiverged m then b.restore m start else (m, false)

end Bounds

end Multirotor
