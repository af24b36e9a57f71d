import Multirotor.Air
import Multirotor.Body.Collision
import Multirotor.Body.Motion
import Multirotor.Fault
import Multirotor.Rotor.Wrench
import Multirotor.Space.Attitude

/-!
# Rigid bodies

The six degrees of freedom of the airframe, advanced one tick at a time by `RigidBody.run`.  The
velocity is kept in the body frame and the position in the ground frame.  A tick takes the queued
collision, lets an operator place the body, or else integrates, holds the body above ground, applies
the collision and puts an out-of-bounds motion back.  What it did is told by `BodyEvent`s.
-/

namespace Multirotor

/-- Acceleration of free fall on Earth. -/
def standardGravity {α : Type} [Scalar α] : α := 9.81

/-- Which velocities move the pose within a tick. -/
inductive IntegrationScheme where
  /-- Those from the start of the tick. -/
  | explicitEuler
  /-- Those at its end. -/
  | semiImplicitEuler
  deriving DecidableEq, Repr

/-- The physical properties of the airframe. -/
structure Airframe (α : Type) where
  mass : α
  /-- Principal moments of inertia. -/
  inertia : Vec3 α
  gravity : α
  drag : Drag α
  rotorRadius : α
  deriving DecidableEq, Repr

/-- The switches of a body. -/
structure BodyOptions (α : Type) where
  /-- An operator may place the body. -/
  manualControl : Bool
  collisionDetection : Bool
  /-- The ground at height zero carries the body. -/
  groundContact : Bool
  integration : IntegrationScheme
  bounds : Option (Bounds α)
  groundEffect : Option (GroundEffect α)
  deriving DecidableEq, Repr

/-- A pose given by an operator. -/
structure Pose (α : Type) where
  /-- In the ground frame. -/
  position : Vec3 α
  angles : Euler α
  deriving DecidableEq, Repr

/-- What acts on the body in one tick. -/
structure BodyInput (α : Type) where
  wrench : Wrench α
  manual : Option (Pose α)
  weather : Option (Weather α)
  deriving DecidableEq, Repr

/-- What a body has to tell about a tick. -/
inductive BodyEvent (α : Type) where
  /-- A queued collision gave way to a later one. -/
  | collisionReplaced
  /-- A contact point lies at the center of the body. -/
  | contactAtCenter
  /-- The normal of a contact has no direction. -/
  | contactWithoutNormal
  | reflected (velocity : Vec3 α)
  | struck (impulse : Vec3 α)
  /-- The motion was put back. -/
  | restored (motion : Motion α)
  deriving DecidableEq, Repr

/-- A rigid body in motion. -/
structure RigidBody (α : Type) where
  airframe : Airframe α
  options : BodyOptions α
  dt : α
  /-- In the ground frame. -/
  position : Vec3 α
  /-- In the body frame. -/
  velocity : Vec3 α
  /-- In the body frame. -/
  angularVelocity : Vec3 α
  /-- In the body frame, over the last tick. -/
  acceleration : Vec3 α
  attitude : Attitude α
  start : Motion α
  startAngles : Euler α
  /-- The collision that the next tick takes. -/
  pending : Option (Collision α)
  deriving DecidableEq, Repr

variable {α : Type} [Scalar α]

/-- Refuses a mass or a moment of inertia that is not positive. -/
def Airframe.check (a : Airframe α) : Except (Fault α) Unit :=
  if ¬ 0 < a.mass then .error (.mass a.mass)
  else if ¬ 0 < a.inertia.x then .error (.inertia .x a.inertia.x)
  else if ¬ 0 < a.inertia.y then .error (.inertia .y a.inertia.y)
  else if ¬ 0 < a.inertia.z then .error (.inertia .z a.inertia.z)
  else .ok ()

/-- No switch is on. -/
def BodyOptions.none : BodyOptions α :=
  { manualControl := false
    collisionDetection := false
    groundContact := false
    integration := .explicitEuler
    bounds := .none
    groundEffect := .none }

namespace RigidBody

/-- A body at rest. -/
def atRest (airframe : Airframe α) (options : BodyOptions α) (kind : AttitudeKind)
    (position : Vec3 α) (angles : Euler α) (dt : α) : Except (Fault α) (RigidBody α) := do
  airframe.check
  if ¬ 0 < dt then .error (.timeStep dt)
  else
    .ok
      { airframe, options, dt, position
        velocity := 0
        angularVelocity := 0
        acceleration := 0
        attitude := .ofAngles kind angles
        start := { position, velocity := 0, angularVelocity := 0 }
        startAngles := angles
        pending := none }

/-! ### The state seen from outside -/

/-- Roll, pitch and yaw. -/
def angles (b : RigidBody α) : Euler α := b.attitude.angles

/-- The velocity in the ground frame. -/
def groundVelocity (b : RigidBody α) : Vec3 α := b.attitude.rotation.apply b.velocity

/-- The body with a velocity given in the ground frame. -/
def setGroundVelocity (b : RigidBody α) (v : Vec3 α) : RigidBody α :=
  { b with velocity := b.attitude.rotation.transpose.apply v }

/-- The body at a position. -/
def setPosition (b : RigidBody α) (p : Vec3 α) : RigidBody α := { b with position := p }

/-- The body with the given angles. -/
def setAngles (b : RigidBody α) (e : Euler α) : RigidBody α :=
  { b with attitude := b.attitude.setAngles e }

/-- The body with an angular velocity in its own frame. -/
def setAngularVelocity (b : RigidBody α) (w : Vec3 α) : RigidBody α := { b with angularVelocity := w }

/-- The motion that is held within bounds. -/
def motion (b : RigidBody α) : Motion α :=
  { position := b.position, velocity := b.groundVelocity, angularVelocity := b.angularVelocity }

/-- The body in the given motion. -/
def setMotion (b : RigidBody α) (m : Motion α) : RigidBody α :=
  ((b.setPosition m.position).setGroundVelocity m.velocity).setAngularVelocity m.angularVelocity

/-- Queues a collision for the next tick in place of one that was not taken yet. -/
def setCollision (b : RigidBody α) (c : Collision α) : RigidBody α × List (BodyEvent α) :=
  ({ b with pending := some c }, if b.pending.isSome then [.collisionReplaced] else [])

/-! ### One tick -/

/-- The force that a surface sends back, in the ground frame. -/
def surfaceForce (b : RigidBody α) (weather : Weather α) (thrust : α) : Vec3 α :=
  match b.options.groundEffect, weather.surface with
  | some effect, some surface =>
    let downwash := b.attitude.rotation.apply (.vertical 1)
    effect.force surface b.position downwash thrust b.airframe.rotorRadius
  | _, _ => 0

/-- The forces of a tick. -/
def forces (b : RigidBody α) (weather : Weather α) (thrust : α) : Forces α :=
  { thrust
    mass := b.airframe.mass
    gravity := b.airframe.gravity
    wind := weather.wind
    drag := b.airframe.drag
    external := b.surfaceForce weather thrust }

/-- Free motion over one tick. -/
def integrate (b : RigidBody α) (input : BodyInput α) : RigidBody α :=
  let weather := input.weather.getD .standard
  let acceleration := (b.forces weather input.wrench.thrust).bodyAcceleration b.angles b.velocity
    b.angularVelocity
  let turning := angularAcceleration b.angularVelocity input.wrench.torque b.airframe.inertia
  let velocity := b.velocity + acceleration * b.dt
  let angularVelocity := b.angularVelocity + turning * b.dt
  let (translate, rotate) :=
    match b.options.integration with
    | .explicitEuler => (b.velocity, b.angularVelocity)
    | .semiImplicitEuler => (velocity, angularVelocity)
  { b with
    acceleration, velocity, angularVelocity
    position := b.position + b.attitude.rotation.apply translate * b.dt
    attitude := b.attitude.advance rotate b.dt }

/-- Puts a body that sank to the ground on it, without downward velocity and without rotation.  A
body that rests there or rises is left alone. -/
def holdAboveGround (b : RigidBody α) : RigidBody α :=
  let v := b.groundVelocity
  if b.position.z < 0 then b
  else if b.position.z == 0 ∧ v.z ≤ 0 then b
  else
    let b := b.setPosition { b.position with z := 0 }
    (b.setGroundVelocity { v with z := Scalar.smaller v.z 0 }).setAngularVelocity 0

/-- Reflects the body off a fixed obstacle. -/
def bounce (b : RigidBody α) (c : Bounce α) : RigidBody α × List (BodyEvent α) :=
  match Collision.reflectAtPoint? c.relativeVelocity b.position c.contact c.restitution with
  | none => (b, [.contactAtCenter])
  | some reflected =>
    let velocity := b.groundVelocity + (reflected - c.relativeVelocity)
    (b.setGroundVelocity velocity, [.reflected velocity])

/-- The body at the moment of a contact. -/
def collider (b : RigidBody α) (contactVector : Vec3 α) : Collider α :=
  { velocity := b.velocity
    angularVelocity := b.angularVelocity
    contactVector
    mass := b.airframe.mass
    inverseInertia := Collision.inverseDiagonal b.airframe.inertia }

/-- Applies the impulse of a contact with a second body. -/
def strike (b : RigidBody α) (s : Strike α) : RigidBody α × List (BodyEvent α) :=
  let body := b.collider s.contactVector
  match body.impulse? (s.target? b.angles) s.normal s.restitution with
  | none => (b, [.contactWithoutNormal])
  | some impulse =>
    ({ b with
        velocity := b.velocity + Collision.velocityChange impulse body.mass
        angularVelocity := b.angularVelocity +
          Collision.angularVelocityChange impulse body.contactVector body.inverseInertia },
      [.struck impulse])

/-- Applies a collision. -/
def collide (b : RigidBody α) : Collision α → RigidBody α × List (BodyEvent α)
  | .bounce c => b.bounce c
  | .strike s => b.strike s

/-- Puts the motion back if it is out of bounds. -/
def confine (b : RigidBody α) (bounds : Bounds α) : RigidBody α × List (BodyEvent α) :=
  match bounds.confine b.motion b.start with
  | (motion, true) => (b.setMotion motion, [.restored motion])
  | (_, false) => (b, [])

/-- The stages of a tick after the integration. -/
def settle (b : RigidBody α) (collision : Option (Collision α)) :
    RigidBody α × List (BodyEvent α) :=
  let b := if b.options.groundContact then b.holdAboveGround else b
  let (b, hit) :=
    match collision with
    | some c => if b.options.collisionDetection then b.collide c else (b, [])
    | none => (b, [])
  let (b, back) :=
    match b.options.bounds with
    | some bounds => b.confine bounds
    | none => (b, [])
  (b, hit ++ back)

/-- One tick.  A pose from an operator who may give one takes the place of the whole tick; the queued
collision is gone in any case. -/
def run (b : RigidBody α) (input : BodyInput α) : RigidBody α × List (BodyEvent α) :=
  let collision := b.pending
  let b := { b with pending := none }
  match if b.options.manualControl then input.manual else none with
  | some pose => ((b.setPosition pose.position).setAngles pose.angles, [])
  | none => (b.integrate input).settle collision

/-- Puts the flagged axes back, out of bounds or not. -/
def forceRestore (b : RigidBody α) : RigidBody α :=
  match b.options.bounds with
  | some bounds => b.setMotion (bounds.restore b.motion b.start).1
  | none => b

/-- The body at rest in its first pose. -/
def reset (b : RigidBody α) : RigidBody α :=
  { b with
    position := b.start.position
    velocity := 0
    angularVelocity := 0
    acceleration := 0
    attitude := b.attitude.setAngles b.startAngles
    pending := none }

end RigidBody

end Multirotor
