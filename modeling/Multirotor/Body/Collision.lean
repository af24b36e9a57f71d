import Multirotor.Space.Euler

/-!
# Collisions

A body meets an obstacle either at a point, where its velocity is reflected, or together with a
second body, where an impulse acts on the two.  Restitution is applied as it is given.  The normal of
a contact may point either way, and one that is too short has no direction.
-/

namespace Multirotor

/-- A contact with a fixed obstacle. -/
structure Bounce (α : Type) where
  /-- Contact point in the ground frame. -/
  contact : Vec3 α
  /-- Velocity of the body relative to the obstacle, in the ground frame. -/
  relativeVelocity : Vec3 α
  restitution : α
  deriving DecidableEq, Repr

/-- A contact with a second body, seen from the body frame. -/
structure Strike (α : Type) where
  /-- The target stands fast. -/
  isTargetStatic : Bool
  restitution : α
  /-- From the center of mass of the body to the contact. -/
  contactVector : Vec3 α
  normal : Vec3 α
  /-- From the center of mass of the target to the contact. -/
  targetContactVector : Vec3 α
  targetVelocity : Vec3 α
  targetAngularVelocity : Vec3 α
  /-- Attitude of the target in the ground frame. -/
  targetAngles : Euler α
  /-- Principal moments of inertia of the target in its own frame. -/
  targetInertia : Vec3 α
  targetMass : α
  deriving DecidableEq, Repr

/-- A collision of the body. -/
inductive Collision (α : Type) where
  | bounce (b : Bounce α)
  | strike (s : Strike α)
  deriving DecidableEq, Repr

/-- A rigid body at the moment of a contact. -/
structure Collider (α : Type) where
  velocity : Vec3 α
  angularVelocity : Vec3 α
  /-- From the center of mass to the contact. -/
  contactVector : Vec3 α
  mass : α
  inverseInertia : Mat3 α
  deriving DecidableEq, Repr

namespace Collision

variable {α : Type} [Scalar α]

/-- Normals up to this length have no direction. -/
def leastNormal : α := 1e-9

/-! ### Reflection -/

/-- `velocity` reflected off a wall. -/
def reflectAtWall? (velocity normal : Vec3 α) (restitution : α) : Option (Vec3 α) :=
  (normal.normalize? leastNormal).map fun n =>
    velocity - n * ((1 + restitution) * velocity.dot n)

/-- `velocity` reflected off a contact seen from `center`; a body that moves away keeps its
velocity. -/
def reflectAtPoint? (velocity center contact : Vec3 α) (restitution : α) : Option (Vec3 α) :=
  let normal := contact - center
  if velocity.dot normal ≤ 0 then (normal.normalize? leastNormal).map fun _ => velocity
  else reflectAtWall? velocity normal restitution

/-! ### Impulse -/

end Collision

namespace Collider

variable {α : Type} [Scalar α]

/-- Velocity of the contact point. -/
def contactVelocity (c : Collider α) : Vec3 α := c.velocity + c.angularVelocity.cross c.contactVector

/-- What an impulse along `n` at the contact changes of the velocity there, per unit of impulse. -/
def inverseMassAlong (c : Collider α) (n : Vec3 α) : α :=
  1 / c.mass + n.dot ((c.inverseInertia.apply (c.contactVector.cross n)).cross c.contactVector)

/-- The impulse on the body from hitting `target`, which stands fast when there is none.  Points that
already separate get none; which way that is follows from the side of the body on which the contact
lies. -/
def impulse? (body : Collider α) (target : Option (Collider α)) (normal : Vec3 α)
    (restitution : α) : Option (Vec3 α) :=
  (normal.normalize? Collision.leastNormal).map fun n =>
    let targetVelocity := (target.map contactVelocity).getD 0
    let relative := body.contactVelocity - targetVelocity
    let side := body.contactVector.dot n
    if Collision.leastNormal < Scalar.abs side ∧ relative.dot n * side ≤ 0 then 0
    else
      let inverseMass := body.inverseMassAlong n +
        (match target with
          | some t => t.inverseMassAlong n
          | none => 0)
      n * (-(1 + restitution) * relative.dot n / inverseMass)

end Collider

namespace Collision

variable {α : Type} [Scalar α]

/-- The change of velocity by an impulse. -/
def velocityChange (impulse : Vec3 α) (mass : α) : Vec3 α := impulse / mass

/-- The change of angular velocity by an impulse at the contact. -/
def angularVelocityChange (impulse contactVector : Vec3 α) (inverseInertia : Mat3 α) : Vec3 α :=
  inverseInertia.apply (contactVector.cross impulse)

/-- The inverse of a diagonal inertia. -/
def inverseDiagonal (inertia : Vec3 α) : Mat3 α := .diagonal (inertia.map (1 / ·))

end Collision

/-- The target in the frame of a body with the attitude `angles`, unless it stands fast. -/
def Strike.target? {α : Type} [Scalar α] (s : Strike α) (angles : Euler α) : Option (Collider α) :=
  if s.isTargetStatic then none
  else
    let relative := angles.rotation.transpose * s.targetAngles.rotation
    some
      { velocity := s.targetVelocity
        angularVelocity := s.targetAngularVelocity
        contactVector := s.targetContactVector
        mass := s.targetMass
        inverseInertia :=
          relative * Collision.inverseDiagonal s.targetInertia * relative.transpose }

end Multirotor
