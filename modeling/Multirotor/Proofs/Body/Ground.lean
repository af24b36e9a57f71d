import Multirotor.Proofs.Aircraft.Reset
import Multirotor.Proofs.Body.Views

/-!
# The ground

The third axis points down, so that a body is below the ground when its `position.z` is positive.
Of the stages of a tick only `RigidBody.held` knows of the ground: it acts on a body that `Sinks`,
and puts it on the ground with no more than its horizontal and its upward motion (`landed`).  The
stages after it keep the height, unless the bounds put it back, so that no tick ends below the
ground (`above_ground_after_run`).
-/

namespace Multirotor

namespace RigidBody

/-! ## Holding a body above the ground -/

/-- The body is below the ground, or on it and moves down. -/
def Sinks (b : RigidBody ℝ) : Prop :=
  0 < b.position.z ∨ b.position.z = 0 ∧ 0 < b.groundVelocity.z

/-- The body on the ground, without rotation and without downward motion. -/
noncomputable def landed (b : RigidBody ℝ) : RigidBody ℝ :=
  ((b.setPosition { b.position with z := 0 }).setGroundVelocity
    { b.groundVelocity with z := min b.groundVelocity.z 0 }).setAngularVelocity 0

variable {b : RigidBody ℝ}

theorem not_sinks_iff : ¬ b.Sinks ↔
    b.position.z < 0 ∨ b.position.z = 0 ∧ b.groundVelocity.z ≤ 0 := by
  rw [Sinks, not_or, not_and, not_lt, not_lt]
  constructor
  · rintro ⟨hz, hv⟩
    rcases hz.lt_or_eq with hz | hz
    · exact .inl hz
    · exact .inr ⟨hz, hv hz⟩
  · rintro (hz | ⟨hz, hv⟩)
    · exact ⟨hz.le, fun h => absurd h hz.ne⟩
    · exact ⟨hz.le, fun _ => hv⟩

theorem holdAboveGround_of_not_sinks (h : ¬ b.Sinks) : b.holdAboveGround = b := by
  unfold holdAboveGround
  rcases not_sinks_iff.1 h with hz | ⟨hz, hv⟩
  · exact if_pos hz
  · simp [hz, hv]

theorem holdAboveGround_of_sinks (h : b.Sinks) : b.holdAboveGround = b.landed := by
  have hneg : ¬ b.position.z < 0 := fun hz => not_sinks_iff.2 (.inl hz) h
  have hrest : ¬ ((b.position.z == 0) = true ∧ b.groundVelocity.z ≤ 0) := fun hz =>
    not_sinks_iff.2 (.inr ⟨eq_of_beq hz.1, hz.2⟩) h
  simp only [holdAboveGround, if_neg hneg, if_neg hrest, Scalar.smaller_real]
  rfl

theorem groundVelocity_setGroundVelocity (h : b.attitude.IsProper) (v : Vec3 ℝ) :
    (b.setGroundVelocity v).groundVelocity = v :=
  h.isRotation.apply_transpose_apply v

theorem groundVelocity_landed (h : b.attitude.IsProper) :
    b.landed.groundVelocity = { b.groundVelocity with z := min b.groundVelocity.z 0 } :=
  groundVelocity_setGroundVelocity (b := b.setPosition _) h _

theorem landed_ne_self (h : b.attitude.IsProper) (hs : b.Sinks) : b.landed ≠ b := by
  intro heq
  rcases hs with hz | ⟨-, hv⟩
  · exact hz.ne (congrArg (·.position.z) heq)
  · have hmin : min b.groundVelocity.z 0 = b.groundVelocity.z :=
      (congrArg Vec3.z (groundVelocity_landed h)).symm.trans (congrArg (·.groundVelocity.z) heq)
    exact hv.not_ge (min_eq_left_iff.1 hmin)

/-- Where the ground carries a body, it acts exactly on one that sinks. -/
theorem held_ne_self_iff (hground : b.options.groundContact = true) (h : b.attitude.IsProper) :
    b.held ≠ b ↔ b.Sinks := by
  rw [held, if_pos hground]
  by_cases hs : b.Sinks
  · rw [holdAboveGround_of_sinks hs]
    exact iff_of_true (landed_ne_self h hs) hs
  · rw [holdAboveGround_of_not_sinks hs]
    exact iff_of_false (not_not_intro rfl) hs

theorem position_held_nonpos (hground : b.options.groundContact = true) :
    b.held.position.z ≤ 0 := by
  rw [held, if_pos hground]
  by_cases hs : b.Sinks
  · rw [holdAboveGround_of_sinks hs]
    exact le_refl (0 : ℝ)
  · rw [holdAboveGround_of_not_sinks hs]
    exact not_lt.1 fun hz => hs (.inl hz)

/-! ## The stages after it -/

theorem position_hit {α : Type} [Scalar α] (b : RigidBody α) (collision : Option (Collision α)) :
    (b.hit collision).1.position = b.position := by
  obtain ⟨v, w, h⟩ := b.exists_hit_eq collision
  rw [h]

/-- Bounds that put the height back put the body above the ground. -/
theorem position_confined_nonpos (hz : b.position.z ≤ 0)
    (hstart : ∀ bounds ∈ b.options.bounds, bounds.position.z = true → b.start.position.z ≤ 0) :
    b.confined.1.position.z ≤ 0 := by
  obtain h | ⟨bounds, hbounds, h⟩ := b.confined_cases
  · rw [h]
    exact hz
  · rw [h]
    change (if Bounds.moved bounds.position.z b.position.z b.start.position.z then
      b.start.position.z else b.position.z) ≤ 0
    split_ifs with hmoved
    · exact hstart bounds hbounds (Bool.and_eq_true_iff.1 hmoved).1
    · exact hz

/-! ## The same body without ground -/

section WithoutGround

variable {α : Type} [Scalar α] (b : RigidBody α)

/-- The body where no ground carries it. -/
def withoutGround (b : RigidBody α) : RigidBody α :=
  { b with options := { b.options with groundContact := false } }

theorem collide_withoutGround (c : Collision α) :
    b.withoutGround.collide c = ((b.collide c).1.withoutGround, (b.collide c).2) := by
  cases c with
  | bounce c =>
    have hp : b.withoutGround.position = b.position := rfl
    simp only [collide, bounce, hp]
    cases Collision.reflectAtPoint? c.relativeVelocity b.position c.contact c.restitution <;> rfl
  | strike s =>
    have hb : b.withoutGround.collider s.contactVector = b.collider s.contactVector := rfl
    have ht : b.withoutGround.angles = b.angles := rfl
    simp only [collide, strike, hb, ht]
    cases (b.collider s.contactVector).impulse? (s.target? b.angles) s.normal s.restitution <;> rfl

theorem hit_withoutGround (collision : Option (Collision α)) :
    b.withoutGround.hit collision =
      ((b.hit collision).1.withoutGround, (b.hit collision).2) := by
  have hdetect : b.withoutGround.options.collisionDetection = b.options.collisionDetection := rfl
  cases collision with
  | none => rfl
  | some c =>
    simp only [hit, hdetect, collide_withoutGround]
    split_ifs <;> rfl

theorem confined_withoutGround :
    b.withoutGround.confined = (b.confined.1.withoutGround, b.confined.2) := by
  have hbounds : b.withoutGround.options.bounds = b.options.bounds := rfl
  have hmotion : b.withoutGround.motion = b.motion := rfl
  have hstart : b.withoutGround.start = b.start := rfl
  unfold confined
  rw [hbounds]
  cases b.options.bounds with
  | none => rfl
  | some bounds =>
    simp only [confine, hmotion, hstart]
    rcases bounds.confine b.motion b.start with ⟨motion, _ | _⟩ <;> rfl

/-- A tick in which the ground does not act is the tick without it. -/
theorem run_withoutGround {b : RigidBody α} {input : BodyInput α} (hfree : b.placement input = none)
    (h : (b.released.integrate input).held = b.released.integrate input) :
    b.withoutGround.run input = ((b.run input).1.withoutGround, (b.run input).2) := by
  have hfree' : b.withoutGround.placement input = none := hfree
  have hintegrate : (b.withoutGround.released.integrate input).held =
      (b.released.integrate input).withoutGround := rfl
  have hpending : b.withoutGround.pending = b.pending := rfl
  rw [run_eq_of_free hfree', run_eq_of_free hfree, h, hintegrate, hpending, hit_withoutGround,
    confined_withoutGround]

end WithoutGround

/-! ## Any history -/

/-- Whatever was done to a body that the ground carries, no tick ends below the ground.  The ground
acts exactly on a body that sinks, it takes the downward motion and the rotation and leaves the
horizontal motion, and a tick in which it does not act is the tick without it. -/
theorem above_ground_after_run {airframe : Airframe ℝ} {options : BodyOptions ℝ}
    {kind : AttitudeKind} {position : Vec3 ℝ} {angles : Euler ℝ} {dt : ℝ} {built : RigidBody ℝ}
    (hbuild : atRest airframe options kind position angles dt = .ok built)
    (hground : options.groundContact = true)
    (hbounds : ∀ bounds ∈ options.bounds, bounds.position.z = true → position.z ≤ 0)
    (ops : List (BodyOperation ℝ)) {input : BodyInput ℝ}
    (hfree : (built.after ops).placement input = none) :
    let b := built.after ops
    let free := b.released.integrate input
    let hit := free.held.hit b.pending
    b.run input = (hit.1.confined.1, hit.2 ++ hit.1.confined.2) ∧
    (b.run input).1.position.z ≤ 0 ∧
    (free.held ≠ free ↔
      0 < free.position.z ∨ free.position.z = 0 ∧ 0 < free.groundVelocity.z) ∧
    (free.held ≠ free →
      free.held.position = { free.position with z := 0 } ∧
      free.held.groundVelocity =
        { free.groundVelocity with z := min free.groundVelocity.z 0 } ∧
      free.held.angularVelocity = 0 ∧ free.held.attitude = free.attitude) ∧
    (free.held = free →
      b.withoutGround.run input = ((b.run input).1.withoutGround, (b.run input).2)) := by
  intro b free hit
  have hreset : b.reset = built.reset := reset_after built ops
  have hinput : (b.released.integrate input).reset = b.reset := reset_integrate b.released input
  obtain ⟨-, -, hbuilt⟩ := atRest_eq_ok hbuild
  have hoptions : free.options = options := by
    rw [options_eq_of_reset (hinput.trans hreset), hbuilt]
  have hproper : free.attitude.IsProper := by
    have hb : b.attitude.IsProper :=
      isProper_after (by rw [hbuilt]; exact Attitude.isProper_ofAngles kind angles) ops
    have hfree : free.attitude = b.attitude.advance (b.released.turning input) b.dt :=
      attitude_integrate b.released input
    exact hfree ▸ hb.advance _ _
  have hcarried : free.options.groundContact = true := hoptions ▸ hground
  have hacts : free.held ≠ free ↔ free.Sinks := held_ne_self_iff hcarried hproper
  refine ⟨run_eq_of_free hfree, ?_, hacts, fun hheld => ?_, run_withoutGround hfree⟩
  · have hresetHit : hit.1.reset = built.reset := by
      rw [reset_hit, reset_held, hinput, hreset]
    rw [run_of_free hfree]
    refine position_confined_nonpos ?_ fun bounds hmem hz => ?_
    · rw [position_hit]
      exact position_held_nonpos hcarried
    · have hstart : hit.1.start.position = position := by
        rw [start_eq_of_reset hresetHit, hbuilt]
      rw [options_eq_of_reset hresetHit, hbuilt] at hmem
      rw [hstart]
      exact hbounds bounds hmem hz
  · have hlanded : free.held = free.landed := by
      rw [held, if_pos hcarried, holdAboveGround_of_sinks (hacts.1 hheld)]
    rw [hlanded]
    exact ⟨rfl, groundVelocity_landed hproper, rfl, rfl⟩

/-- A body that was turned and thrown down at a slant hits the ground within the tick, and a wall as
well.  The pose that is given for it does not count. -/
theorem above_ground_after_run_thrown :
    let airframe : Airframe ℝ :=
      { mass := 1, inertia := ⟨1, 2, 3⟩, gravity := 9.81
        drag := { linear := 0.05, quadratic := 0.01 }, rotorRadius := 0.05 }
    let bounds : Bounds ℝ := { Bounds.standard with position := .all true }
    let options : BodyOptions ℝ :=
      { BodyOptions.none with
        collisionDetection := true, groundContact := true, bounds := some bounds }
    let input : BodyInput ℝ :=
      { wrench := { thrust := 2, torque := ⟨0, 1, 0⟩ }
        manual := some { position := ⟨0, 0, 5⟩, angles := 0 }
        weather := none }
    let ops : List (BodyOperation ℝ) :=
      [.setAngles ⟨0.1, 0.2, 0.3⟩, .setPosition ⟨1, 2, -0.01⟩, .setGroundVelocity ⟨4, 0, 3⟩,
        .setAngularVelocity ⟨1, 1, 1⟩, .setCollision (.bounce
          { contact := ⟨2, 2, 0⟩, relativeVelocity := ⟨4, 0, 0⟩, restitution := 0.5 })]
    ∃ built, atRest airframe options .quaternion ⟨0, 0, -1⟩ 0 0.01 = .ok built ∧
      let b := built.after ops
      let free := b.released.integrate input
      b.placement input = none ∧ 0 < free.position.z ∧
        free.held.position = { free.position with z := 0 } ∧ free.held.angularVelocity = 0 ∧
        (b.run input).1.position.z ≤ 0 := by
  intro airframe bounds options input ops
  have hcheck : airframe.check = .ok () := by norm_num [airframe, Airframe.check]
  have hdt : (0 : ℝ) < 0.01 := by norm_num
  obtain ⟨built, hbuild⟩ := exists_atRest hcheck hdt options .quaternion ⟨0, 0, -1⟩ 0
  obtain ⟨-, -, hbuilt⟩ := atRest_eq_ok hbuild
  have hfree : (built.after ops).placement input = none := by rw [hbuilt]; rfl
  obtain ⟨-, hheight, hacts, hlands, -⟩ :=
    above_ground_after_run hbuild rfl (fun _ _ _ => by norm_num) ops hfree
  have hsinks : 0 < ((built.after ops).released.integrate input).position.z := by
    have hmoving : (built.after ops).released.attitude.rotation.apply
        ((built.after ops).released.moving input) = ⟨4, 0, 3⟩ := by
      rw [hbuilt]
      exact (Attitude.isProper_ofAngles .quaternion _).isRotation.apply_transpose_apply _
    rw [position_integrate, hmoving, hbuilt]
    change (0 : ℝ) < -0.01 + 3 * 0.01
    norm_num
  obtain ⟨hposition, -, hspin, -⟩ := hlands (hacts.2 (.inl hsinks))
  exact ⟨built, hbuild, hfree, hsinks, hposition, hspin, hheight⟩

end RigidBody

end Multirotor
