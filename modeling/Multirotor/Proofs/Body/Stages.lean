import Mathlib.Tactic.SplitIfs
import Multirotor.Body.Rigid

/-!
# The stages of a tick of the body

`RigidBody.run` either lets an operator place the body or passes it through four stages:
`integrate`, then `held` above the ground, then `hit` by the queued collision, then `confined` to
its bounds.  `run_of_placement` and `run_of_free` say so, and the stages are what proofs about a
tick are made of.  `BodyOperation` lists everything that can be done to a body, a tick among it.
-/

namespace Multirotor

/-- A use of a body. -/
inductive BodyOperation (α : Type) where
  | setPosition (p : Vec3 α)
  | setAngles (e : Euler α)
  | setGroundVelocity (v : Vec3 α)
  | setAngularVelocity (w : Vec3 α)
  | setCollision (c : Collision α)
  | forceRestore
  | run (input : BodyInput α)
  | reset
  deriving DecidableEq, Repr

namespace RigidBody

variable {α : Type} [Scalar α]

/-! ## Building -/

theorem atRest_eq_ok {airframe : Airframe α} {options : BodyOptions α} {kind : AttitudeKind}
    {position : Vec3 α} {angles : Euler α} {dt : α} {b : RigidBody α}
    (h : atRest airframe options kind position angles dt = .ok b) :
    airframe.check = .ok () ∧ 0 < dt ∧
      b = { airframe, options, dt, position
            velocity := 0
            angularVelocity := 0
            acceleration := 0
            attitude := .ofAngles kind angles
            start := { position, velocity := 0, angularVelocity := 0 }
            startAngles := angles
            pending := none } := by
  unfold atRest at h
  cases hc : airframe.check with
  | error f => simp [hc, bind, Except.bind] at h
  | ok =>
    simp only [hc, bind, Except.bind] at h
    split_ifs at h with hdt
    exact ⟨rfl, hdt, (Except.ok.inj h).symm⟩

/-! ## Stages -/

/-- The body held above the ground, if the ground carries it. -/
def held (b : RigidBody α) : RigidBody α :=
  if b.options.groundContact then b.holdAboveGround else b

/-- The body after a collision, if there is one and it is detected. -/
def hit (b : RigidBody α) (collision : Option (Collision α)) : RigidBody α × List (BodyEvent α) :=
  match collision with
  | some c => if b.options.collisionDetection then b.collide c else (b, [])
  | none => (b, [])

/-- The body put back within its bounds, if it has any. -/
def confined (b : RigidBody α) : RigidBody α × List (BodyEvent α) :=
  match b.options.bounds with
  | some bounds => b.confine bounds
  | none => (b, [])

/-- The body with no collision queued. -/
def released (b : RigidBody α) : RigidBody α := { b with pending := none }

/-- The pose from an operator who may give one. -/
def placement (b : RigidBody α) (input : BodyInput α) : Option (Pose α) :=
  if b.options.manualControl then input.manual else none

theorem run_of_placement {b : RigidBody α} {input : BodyInput α} {pose : Pose α}
    (h : b.placement input = some pose) :
    (b.run input).1 = (b.released.setPosition pose.position).setAngles pose.angles := by
  unfold placement at h
  simp only [run, h]
  rfl

theorem run_of_free {b : RigidBody α} {input : BodyInput α} (h : b.placement input = none) :
    (b.run input).1 = (((b.released.integrate input).held).hit b.pending).1.confined.1 := by
  unfold placement at h
  simp only [run, h]
  rfl

/-- A tick that no operator takes over, with what it tells. -/
theorem run_eq_of_free {b : RigidBody α} {input : BodyInput α} (h : b.placement input = none) :
    let hit := ((b.released.integrate input).held).hit b.pending
    b.run input = (hit.1.confined.1, hit.2 ++ hit.1.confined.2) := by
  unfold placement at h
  simp only [run, h]
  rfl

/-- A collision changes the velocities of the body and nothing else. -/
theorem exists_hit_eq (b : RigidBody α) (collision : Option (Collision α)) :
    ∃ v w, (b.hit collision).1 = { b with velocity := v, angularVelocity := w } := by
  cases collision with
  | none => exact ⟨b.velocity, b.angularVelocity, rfl⟩
  | some c =>
    unfold hit
    dsimp only
    split_ifs
    · cases c with
      | bounce c =>
        simp only [collide, bounce]
        split
        · exact ⟨b.velocity, b.angularVelocity, rfl⟩
        · exact ⟨_, b.angularVelocity, rfl⟩
      | strike s =>
        simp only [collide, strike]
        split
        · exact ⟨b.velocity, b.angularVelocity, rfl⟩
        · exact ⟨_, _, rfl⟩
    · exact ⟨b.velocity, b.angularVelocity, rfl⟩

/-- The bounds leave the body as it is or put all of its flagged motion back. -/
theorem confined_cases (b : RigidBody α) : b.confined.1 = b ∨
    ∃ bounds, b.options.bounds = some bounds ∧
      b.confined.1 = b.setMotion (bounds.restore b.motion b.start).1 := by
  unfold confined
  cases h : b.options.bounds with
  | none => exact .inl rfl
  | some bounds =>
    simp only [confine, Bounds.confine]
    by_cases hd : bounds.isDiverged b.motion = true
    · rw [if_pos hd]
      rcases hr : bounds.restore b.motion b.start with ⟨motion, _ | _⟩
      · exact .inl rfl
      · exact .inr ⟨bounds, rfl, by rw [hr]⟩
    · rw [if_neg hd]
      exact .inl rfl

theorem confined_of_within {b : RigidBody α}
    (h : ∀ bounds ∈ b.options.bounds, bounds.isDiverged b.motion = false) : b.confined.1 = b := by
  unfold confined
  split
  · next bounds hb =>
    simp only [confine, Bounds.confine, h bounds hb, Bool.false_eq_true, if_false]
  · rfl

/-! ## The pose

Only the integration and an operator turn the body. -/

@[simp] theorem attitude_held (b : RigidBody α) : b.held.attitude = b.attitude := by
  unfold held holdAboveGround
  dsimp only
  split_ifs <;> rfl

@[simp] theorem attitude_hit (b : RigidBody α) (collision : Option (Collision α)) :
    (b.hit collision).1.attitude = b.attitude := by
  obtain ⟨v, w, h⟩ := b.exists_hit_eq collision
  rw [h]

@[simp] theorem attitude_confined (b : RigidBody α) : b.confined.1.attitude = b.attitude := by
  obtain h | ⟨bounds, -, h⟩ := b.confined_cases
  · rw [h]
  · rw [h]
    rfl

/-- The velocity that moves the body in a tick. -/
def moving (b : RigidBody α) (input : BodyInput α) : Vec3 α :=
  match b.options.integration with
  | .explicitEuler => b.velocity
  | .semiImplicitEuler => (b.integrate input).velocity

/-- The angular velocity that turns the body in a tick. -/
def turning (b : RigidBody α) (input : BodyInput α) : Vec3 α :=
  match b.options.integration with
  | .explicitEuler => b.angularVelocity
  | .semiImplicitEuler => (b.integrate input).angularVelocity

theorem position_integrate (b : RigidBody α) (input : BodyInput α) :
    (b.integrate input).position =
      b.position + b.attitude.rotation.apply (b.moving input) * b.dt := by
  unfold moving integrate
  cases b.options.integration <;> rfl

theorem attitude_integrate (b : RigidBody α) (input : BodyInput α) :
    (b.integrate input).attitude = b.attitude.advance (b.turning input) b.dt := by
  unfold turning integrate
  cases b.options.integration <;> rfl

theorem attitude_run_of_free {b : RigidBody α} {input : BodyInput α}
    (h : b.placement input = none) :
    (b.run input).1.attitude = b.attitude.advance (b.turning input) b.dt := by
  rw [run_of_free h, attitude_confined, attitude_hit, attitude_held, attitude_integrate]
  rfl

/-! ## The acceleration

It is recorded by the integration; what stops the body afterwards leaves the record. -/

@[simp] theorem acceleration_held (b : RigidBody α) : b.held.acceleration = b.acceleration := by
  unfold held holdAboveGround
  dsimp only
  split_ifs <;> rfl

@[simp] theorem acceleration_hit (b : RigidBody α) (collision : Option (Collision α)) :
    (b.hit collision).1.acceleration = b.acceleration := by
  obtain ⟨v, w, h⟩ := b.exists_hit_eq collision
  rw [h]

@[simp] theorem acceleration_confined (b : RigidBody α) :
    b.confined.1.acceleration = b.acceleration := by
  obtain h | ⟨bounds, -, h⟩ := b.confined_cases
  · rw [h]
  · rw [h]
    rfl

theorem acceleration_run_of_free {b : RigidBody α} {input : BodyInput α}
    (h : b.placement input = none) :
    (b.run input).1.acceleration =
      (b.forces (input.weather.getD .standard) input.wrench.thrust).bodyAcceleration b.angles
        b.velocity b.angularVelocity := by
  rw [run_of_free h, acceleration_confined, acceleration_hit, acceleration_held]
  unfold integrate
  cases b.released.options.integration <;> rfl

/-! ## Operations -/

/-- The body after an operation, with what it tells. -/
def perform (b : RigidBody α) : BodyOperation α → RigidBody α × List (BodyEvent α)
  | .setPosition p => (b.setPosition p, [])
  | .setAngles e => (b.setAngles e, [])
  | .setGroundVelocity v => (b.setGroundVelocity v, [])
  | .setAngularVelocity w => (b.setAngularVelocity w, [])
  | .setCollision c => b.setCollision c
  | .forceRestore => (b.forceRestore, [])
  | .run input => b.run input
  | .reset => (b.reset, [])

/-- An operation leaves the attitude, sets its angles or lets it turn for a tick. -/
theorem attitude_perform (b : RigidBody α) (op : BodyOperation α) :
    (b.perform op).1.attitude = b.attitude ∨
      (∃ e, (b.perform op).1.attitude = b.attitude.setAngles e) ∨
      ∃ w, (b.perform op).1.attitude = b.attitude.advance w b.dt := by
  cases op with
  | setAngles e => exact .inr (.inl ⟨e, rfl⟩)
  | forceRestore =>
    left
    simp only [perform, forceRestore]
    split <;> rfl
  | run input =>
    right
    cases h : b.placement input with
    | some pose => exact .inl ⟨pose.angles, by rw [perform, run_of_placement h]; rfl⟩
    | none => exact .inr ⟨_, attitude_run_of_free h⟩
  | reset => exact .inr (.inl ⟨b.startAngles, rfl⟩)
  | _ => exact .inl rfl

/-- The body after a sequence of operations. -/
def after (b : RigidBody α) (ops : List (BodyOperation α)) : RigidBody α :=
  ops.foldl (fun b op => (b.perform op).1) b

/-- What every operation preserves holds after any sequence of them. -/
theorem after_induction {P : RigidBody α → Prop} (step : ∀ b op, P b → P (b.perform op).1)
    {b : RigidBody α} (h : P b) (ops : List (BodyOperation α)) : P (b.after ops) := by
  induction ops generalizing b with
  | nil => exact h
  | cons op ops ih => exact ih (step b op h)

/-- So does what the attitude keeps when its angles are set and when it turns. -/
theorem attitude_after {P : Attitude α → Prop} (set : ∀ a e, P a → P (a.setAngles e))
    (turn : ∀ a w dt, P a → P (a.advance w dt)) {b : RigidBody α} (h : P b.attitude)
    (ops : List (BodyOperation α)) : P (b.after ops).attitude := by
  refine after_induction (P := fun b => P b.attitude) (fun b op hb => ?_) h ops
  obtain heq | ⟨e, heq⟩ | ⟨w, heq⟩ := b.attitude_perform op
  · exact heq ▸ hb
  · exact heq ▸ set _ e hb
  · exact heq ▸ turn _ w b.dt hb

end RigidBody

end Multirotor
