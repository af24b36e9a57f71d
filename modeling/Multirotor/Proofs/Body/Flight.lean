import Mathlib.Data.Nat.Choose.Cast
import Multirotor.Proofs.Aircraft.Pending
import Multirotor.Proofs.Body.Frames
import Multirotor.Proofs.Body.Rest

/-!
# Free flight

A body that is `Unhindered` is touched neither by the ground nor by a collision nor by bounds: a
tick that no operator takes over is the integration alone (`Unhindered.run_of_free`), and the body
stays unhindered from then on.  Over any number of ticks (`RigidBody.flown`) such a body that does
not turn, has no drag and is far from any surface is accelerated by gravity and a constant thrust.
It then moves on the parabola of that acceleration, up to the choice of the velocity that moves it
within a tick (`RigidBody.flies_parabola`).
-/

namespace Multirotor

namespace RigidBody

section Unhindered

variable {α : Type} [Scalar α] {b : RigidBody α} {input : BodyInput α}

/-- Neither the ground nor a collision nor bounds act on the body. -/
structure Unhindered (b : RigidBody α) : Prop where
  ground : b.options.groundContact = false
  collision : b.options.collisionDetection = false ∨ b.pending = none
  bounds : b.options.bounds = none

/-- The body after ticks with the given inputs. -/
def flown (b : RigidBody α) (inputs : List (BodyInput α)) : RigidBody α :=
  b.after (inputs.map .run)

theorem flown_cons (b : RigidBody α) (input : BodyInput α) (inputs : List (BodyInput α)) :
    b.flown (input :: inputs) = (b.run input).1.flown inputs := rfl

theorem flown_append (b : RigidBody α) (past inputs : List (BodyInput α)) :
    b.flown (past ++ inputs) = (b.flown past).flown inputs := by
  rw [flown, List.map_append, after, List.foldl_append]
  rfl

theorem flown_concat (b : RigidBody α) (past : List (BodyInput α)) (input : BodyInput α) :
    b.flown (past ++ [input]) = ((b.flown past).run input).1 := flown_append b past [input]

theorem airframe_flown (b : RigidBody α) (inputs : List (BodyInput α)) :
    (b.flown inputs).airframe = b.airframe := by
  change (b.flown inputs).reset.airframe = b.reset.airframe
  rw [flown, reset_after]

theorem dt_flown (b : RigidBody α) (inputs : List (BodyInput α)) :
    (b.flown inputs).dt = b.dt := by
  change (b.flown inputs).reset.dt = b.reset.dt
  rw [flown, reset_after]

theorem options_flown (b : RigidBody α) (inputs : List (BodyInput α)) :
    (b.flown inputs).options = b.options := options_eq_of_reset (reset_after b _)

theorem placement_flown (b : RigidBody α) (inputs : List (BodyInput α)) (input : BodyInput α) :
    (b.flown inputs).placement input = b.placement input := by
  rw [placement, options_flown, placement]

namespace Unhindered

/-- A tick that no operator takes over is the integration alone. -/
theorem run_of_free (h : b.Unhindered) (hfree : b.placement input = none) :
    (b.run input).1 = b.released.integrate input := by
  have hheld : (b.released.integrate input).held = b.released.integrate input :=
    if_neg (ne_true_of_eq_false h.ground)
  have hhit : ((b.released.integrate input).hit b.pending).1 = b.released.integrate input := by
    rcases h.collision with hdetect | hnone
    · cases b.pending with
      | none => rfl
      | some c => exact congrArg Prod.fst (if_neg (ne_true_of_eq_false hdetect))
    · rw [hnone]
      rfl
  have hwithin : (b.released.integrate input).confined.1 = b.released.integrate input := by
    refine confined_of_within fun bounds hbounds => ?_
    cases h.bounds.symm.trans hbounds
  rw [RigidBody.run_of_free hfree, hheld, hhit, hwithin]

theorem run (h : b.Unhindered) (input : BodyInput α) : (b.run input).1.Unhindered := by
  have hoptions : (b.run input).1.options = b.options := options_eq_of_reset (reset_run b input)
  exact
    { ground := by rw [hoptions, h.ground]
      collision := .inr (pending_run b input)
      bounds := by rw [hoptions, h.bounds] }

theorem flown (h : b.Unhindered) (inputs : List (BodyInput α)) : (b.flown inputs).Unhindered := by
  induction inputs generalizing b with
  | nil => exact h
  | cons input inputs ih => exact ih (h.run input)

end Unhindered

end Unhindered

/-! ## Flight without rotation -/

end RigidBody

/-- Without drag, gravity and the thrust are all that accelerates a body that does not turn. -/
theorem Forces.apply_bodyAcceleration_dragless {f : Forces ℝ} (hmass : f.mass ≠ 0)
    (hdrag : f.drag = 0) (hexternal : f.external = 0) (e : Euler ℝ) (v : Vec3 ℝ) :
    e.rotation.apply (f.bodyAcceleration e v 0) =
      .vertical f.gravity - e.rotation.apply (.vertical 1) * (f.thrust / f.mass) := by
  have hturn : f.bodyAcceleration e v 0 + (0 : Vec3 ℝ).cross v = f.bodyAcceleration e v 0 := by
    ext <;> simp
  have hquadratic : f.drag.quadratic = 0 := by rw [hdrag]; rfl
  have hfriction (u : Vec3 ℝ) : f.drag.force u = 0 := by rw [hdrag, Drag.zero_force]
  have hthrust : e.toGround (.vertical (-f.thrust)) = e.rotation.apply (.vertical 1) * -f.thrust := by
    rw [Euler.toGround, ← Mat3.apply_scale, Vec3.vertical_scale, one_mul]
  have hlaw := f.apply_bodyAcceleration e v 0
  rw [hturn, groundAcceleration, hfriction, hexternal, hthrust, hquadratic] at hlaw
  rw [hlaw]
  ext
  · simp
    ring
  · simp
    ring
  · simp
    field_simp
    ring

namespace RigidBody

variable {b : RigidBody ℝ} {input : BodyInput ℝ} {thrust : ℝ}

/-- The acceleration in the ground frame by gravity and a thrust. -/
noncomputable def pull (b : RigidBody ℝ) (thrust : ℝ) : Vec3 ℝ :=
  .vertical b.airframe.gravity - b.attitude.rotation.apply (.vertical 1) * (thrust / b.airframe.mass)

/-- Nothing but gravity and a thrust acts on the body in the tick, and no operator places it. -/
structure DrivenBy (b : RigidBody ℝ) (thrust : ℝ) (input : BodyInput ℝ) : Prop where
  wrench : input.wrench = { thrust, torque := 0 }
  placement : b.placement input = none
  surface : b.options.groundEffect = none ∨ (input.weather.getD .standard).surface = none

/-- A body without drag that does not turn. -/
structure Ballistic (b : RigidBody ℝ) : Prop where
  unhindered : b.Unhindered
  mass : 0 < b.airframe.mass
  drag : b.airframe.drag = 0
  attitude : b.attitude.IsProper
  angularVelocity : b.angularVelocity = 0

namespace Ballistic

theorem apply_acceleration (h : b.Ballistic) (hinput : b.DrivenBy thrust input) :
    b.attitude.rotation.apply (b.released.integrate input).acceleration = b.pull thrust := by
  have hexternal : b.surfaceForce (input.weather.getD .standard) input.wrench.thrust = 0 := by
    unfold surfaceForce
    rcases hinput.surface with hnone | hnone
    · rw [hnone]
    · rw [hnone]
      cases b.options.groundEffect <;> rfl
  have hlaw := Forces.apply_bodyAcceleration_dragless
    (f := b.forces (input.weather.getD .standard) input.wrench.thrust) h.mass.ne' h.drag hexternal
    b.angles b.velocity
  have hrotation : b.angles.rotation = b.attitude.rotation := h.attitude.rotation_angles
  rw [hrotation, ← h.angularVelocity] at hlaw
  refine hlaw.trans ?_
  simp only [forces, hinput.wrench]
  rfl

/-- One tick: the rotation is kept, and the velocity in the ground frame changes by the pull. -/
theorem run (h : b.Ballistic) (hinput : b.DrivenBy thrust input) :
    (b.run input).1.Ballistic ∧ (b.run input).1.attitude.rotation = b.attitude.rotation ∧
      (b.run input).1.groundVelocity = b.groundVelocity + b.pull thrust * b.dt ∧
      (b.run input).1.position = b.position +
        (match b.options.integration with
          | .explicitEuler => b.groundVelocity
          | .semiImplicitEuler => b.groundVelocity + b.pull thrust * b.dt) * b.dt := by
  have hrun := h.unhindered.run_of_free hinput.placement
  have htorque : input.wrench.torque = 0 := congrArg (·.torque) hinput.wrench
  have hspin : (b.released.integrate input).angularVelocity = 0 :=
    angularVelocity_integrate_zero (b := b.released) h.angularVelocity htorque
  have hattitude : (b.released.integrate input).attitude = b.attitude.advance 0 b.dt :=
    attitude_integrate_zero (b := b.released) h.angularVelocity htorque
  have hrotation : (b.released.integrate input).attitude.rotation = b.attitude.rotation := by
    rw [hattitude, h.attitude.rotation_advance_zero]
  have hvelocity : b.attitude.rotation.apply (b.released.integrate input).velocity =
      b.groundVelocity + b.pull thrust * b.dt := by
    change b.attitude.rotation.apply
      (b.velocity + (b.released.integrate input).acceleration * b.dt) = _
    rw [Mat3.apply_add, Mat3.apply_scale, h.apply_acceleration hinput, groundVelocity]
  refine ⟨?_, ?_, ?_, ?_⟩
  · exact
      { unhindered := h.unhindered.run input
        mass := by rw [hrun]; exact h.mass
        drag := by rw [hrun]; exact h.drag
        attitude := by rw [hrun, hattitude]; exact h.attitude.advance 0 b.dt
        angularVelocity := by rw [hrun, hspin] }
  · rw [hrun, hrotation]
  · rw [hrun, groundVelocity, hrotation, hvelocity]
  · rw [hrun, position_integrate]
    refine congrArg (fun v : Vec3 ℝ => b.position + v * b.dt) ?_
    change b.attitude.rotation.apply (match b.options.integration with
      | .explicitEuler => b.velocity
      | .semiImplicitEuler => (b.released.integrate input).velocity) = _
    cases b.options.integration with
    | explicitEuler => rfl
    | semiImplicitEuler => exact hvelocity

end Ballistic

/-- How many ticks of the pull the position has taken up after `n` ticks: a tick moves the body by
the pulls before it, or by its own as well. -/
def pullCount : IntegrationScheme → ℕ → ℕ
  | .explicitEuler, n => n.choose 2
  | .semiImplicitEuler, n => (n + 1).choose 2

theorem Ballistic.flown (h : b.Ballistic) {inputs : List (BodyInput ℝ)}
    (hinputs : ∀ input ∈ inputs, b.DrivenBy thrust input) :
    (b.flown inputs).Ballistic ∧ (b.flown inputs).attitude.rotation = b.attitude.rotation ∧
      (b.flown inputs).groundVelocity =
        b.groundVelocity + b.pull thrust * ((inputs.length : ℝ) * b.dt) ∧
      (b.flown inputs).position =
        b.position + b.groundVelocity * ((inputs.length : ℝ) * b.dt) +
          b.pull thrust * (b.dt ^ 2 * (pullCount b.options.integration inputs.length : ℝ)) := by
  -- The last tick is taken off, since its velocities are those that the closed form is about.
  induction inputs using List.reverseRecOn with
  | nil =>
    refine ⟨h, rfl, ?_, ?_⟩
    · ext <;> simp [RigidBody.flown, after]
    · cases b.options.integration <;> ext <;> simp [pullCount, RigidBody.flown, after]
  | append_singleton past input ih =>
    obtain ⟨hballistic, hrotation, hvelocity, hposition⟩ :=
      ih fun i hi => hinputs i (List.mem_append_left _ hi)
    have hlast := hinputs input (List.mem_append_right _ (List.mem_singleton_self _))
    have hdriven : (b.flown past).DrivenBy thrust input :=
      { wrench := hlast.wrench
        placement := by rw [placement_flown, hlast.placement]
        surface := by rw [options_flown]; exact hlast.surface }
    have hpull : (b.flown past).pull thrust = b.pull thrust := by
      rw [pull, pull, hrotation, airframe_flown]
    obtain ⟨hnext, hrotation', hvelocity', hposition'⟩ := hballistic.run hdriven
    rw [hpull, dt_flown, hvelocity] at hvelocity' hposition'
    rw [options_flown, hposition] at hposition'
    rw [flown_concat, List.length_append, List.length_singleton]
    refine ⟨hnext, hrotation'.trans hrotation, hvelocity'.trans ?_, hposition'.trans ?_⟩
    · ext <;> simp <;> ring
    · cases b.options.integration <;> ext <;>
        simp [pullCount, Nat.cast_choose_two] <;> ring

/-- A body that does not turn flies on the parabola of gravity and a constant thrust, whatever its
attitude and the wind, as long as no operator places it.  The two schemes differ in the velocity
that moves it within a tick: without the pull of that tick or with it. -/
theorem flies_parabola (h : b.Ballistic) {inputs : List (BodyInput ℝ)}
    (hinputs : ∀ input ∈ inputs, b.DrivenBy thrust input) :
    let R := b.attitude.rotation
    let a := Vec3.vertical b.airframe.gravity - R.apply (.vertical 1) * (thrust / b.airframe.mass)
    let n : ℝ := inputs.length
    let after := b.flown inputs
    after.groundVelocity = b.groundVelocity + a * (n * b.dt) ∧
      after.attitude.rotation = R ∧
      (b.options.integration = .explicitEuler →
        after.position =
          b.position + b.groundVelocity * (n * b.dt) + a * (b.dt ^ 2 * (n * (n - 1) / 2))) ∧
      (b.options.integration = .semiImplicitEuler →
        after.position =
          b.position + b.groundVelocity * (n * b.dt) + a * (b.dt ^ 2 * (n * (n + 1) / 2))) := by
  obtain ⟨-, hrotation, hvelocity, hposition⟩ := h.flown hinputs
  refine ⟨hvelocity, hrotation, fun hscheme => ?_, fun hscheme => ?_⟩
  · rwa [hscheme, pullCount, Nat.cast_choose_two] at hposition
  · rw [hscheme, pullCount, Nat.cast_choose_two, Nat.cast_add_one, add_sub_cancel_right,
      mul_comm (_ + 1 : ℝ)] at hposition
    exact hposition

/-- A body that climbs with its nose raised, in still air and in a gust. -/
theorem flies_parabola_climbing :
    let q : Quaternion ℝ := ⟨0, 3 / 5, 0, 4 / 5⟩
    let b : RigidBody ℝ :=
      { airframe :=
          { mass := 2, inertia := ⟨1, 2, 3⟩, gravity := 9.8, drag := 0, rotorRadius := 0.05 }
        options := { BodyOptions.none with integration := .semiImplicitEuler }
        dt := 0.1
        position := ⟨1, 2, -30⟩
        velocity := ⟨5, 1, 0⟩
        angularVelocity := 0
        acceleration := 0
        attitude := .quaternion q
        start := 0
        startAngles := 0
        pending := none }
    let still : BodyInput ℝ :=
      { wrench := { thrust := 10, torque := 0 }, manual := none, weather := none }
    let gust : BodyInput ℝ :=
      { still with weather := some { Weather.standard with wind := ⟨3, 4, 5⟩ } }
    let after := b.flown [still, gust, still]
    b.Ballistic ∧ after.groundVelocity = ⟨-0.04, 1, -2.28⟩ ∧
      after.attitude.rotation = q.rotation ∧ after.position = ⟨1.132, 2.3, -30.936⟩ := by
  intro q b still gust after
  have hq : q.normSq = 1 := by norm_num [q, Quaternion.normSq]
  have hballistic : b.Ballistic :=
    { unhindered := ⟨rfl, .inr rfl, rfl⟩
      mass := two_pos
      drag := rfl
      attitude := hq
      angularVelocity := rfl }
  have hinputs : ∀ input ∈ [still, gust, still], b.DrivenBy 10 input := by
    have hstill : b.DrivenBy 10 still := ⟨rfl, rfl, .inl rfl⟩
    have hgust : b.DrivenBy 10 gust := ⟨rfl, rfl, .inl rfl⟩
    simpa using ⟨hstill, hgust, hstill⟩
  obtain ⟨hvelocity, hrotation, -, hposition⟩ := flies_parabola hballistic hinputs
  have hpull : Vec3.vertical b.airframe.gravity -
      b.attitude.rotation.apply (.vertical 1) * (10 / b.airframe.mass) = ⟨-4.8, 0, 8.4⟩ := by
    ext <;> norm_num [b, q, Attitude.rotation, Quaternion.rotation, Mat3.apply, Vec3.dot]
  have hstart : b.groundVelocity = ⟨1.4, 1, -4.8⟩ := by
    ext <;> norm_num [b, q, groundVelocity, Attitude.rotation, Quaternion.rotation, Mat3.apply,
      Vec3.dot]
  refine ⟨hballistic, hvelocity.trans ?_, hrotation, (hposition rfl).trans ?_⟩
  · rw [hpull, hstart]
    ext <;> norm_num [b]
  · rw [hpull, hstart]
    ext <;> norm_num [b]

/-- An operator who places the body in a tick takes it off the parabola. -/
theorem leaves_parabola_placed :
    let b : RigidBody ℝ :=
      { airframe :=
          { mass := 1, inertia := ⟨1, 1, 1⟩, gravity := 9.81, drag := 0, rotorRadius := 0.1 }
        options := { BodyOptions.none with manualControl := true }
        dt := 0.001
        position := 0
        velocity := 0
        angularVelocity := 0
        acceleration := 0
        attitude := .euler 0
        start := 0
        startAngles := 0
        pending := none }
    let input : BodyInput ℝ :=
      { wrench := 0, manual := some { position := ⟨1, 0, 0⟩, angles := 0 }, weather := none }
    let a := Vec3.vertical b.airframe.gravity -
      b.attitude.rotation.apply (.vertical 1) * (0 / b.airframe.mass)
    b.Ballistic ∧ input.wrench = { thrust := 0, torque := 0 } ∧ b.options.groundEffect = none ∧
      (b.flown [input]).groundVelocity ≠ b.groundVelocity + a * (1 * b.dt) ∧
      (b.flown [input]).position ≠ b.position + b.groundVelocity * (1 * b.dt) := by
  intro b input a
  have hballistic : b.Ballistic :=
    { unhindered := ⟨rfl, .inr rfl, rfl⟩
      mass := one_pos
      drag := rfl
      attitude := trivial
      angularVelocity := rfl }
  have hstill : b.groundVelocity = 0 := Mat3.apply_zero _
  have hvelocity : (b.flown [input]).groundVelocity = 0 := Mat3.apply_zero _
  have hposition : (b.flown [input]).position = ⟨1, 0, 0⟩ := rfl
  refine ⟨hballistic, rfl, rfl, fun hfalls => ?_, fun hstays => ?_⟩
  · rw [hstill, hvelocity] at hfalls
    have hz := congrArg Vec3.z hfalls
    norm_num [a, b] at hz
  · rw [hstill, hposition] at hstays
    have hx := congrArg Vec3.x hstays
    norm_num [b] at hx

end RigidBody

end Multirotor
