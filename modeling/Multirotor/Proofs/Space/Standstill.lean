import Multirotor.Proofs.Space.Kinematics

/-!
# Attitudes that stand still under a turn

Euler angles hold still near the vertical, where they have no derivatives (`Euler.IsLocked`), and a
locked attitude is never left again.  Elsewhere a step moves the angles, but it may move them to
other angles of the same rotation (`Euler.Laps`): close to the vertical the angles run much faster
than the body, so a slow turn can take roll and yaw once around in one step.  Angles of one rotation
are equal up to full turns or on opposite sides of the vertical (`Euler.rotation_eq_iff`), and from
either the same step leads to the same rotation (`Euler.rotation_step_congr`).  Hence an attitude
that its first step leaves alone stands still for ever, and `Attitude.frozen_iff` lists all of them.
-/

namespace Multirotor

open Scalar

namespace Euler

/-! ## The angles of one rotation -/

/-- Equal angles up to full turns. -/
structure Coterminal (e e' : Euler ℝ) : Prop where
  roll : (e'.roll : Real.Angle) = e.roll
  pitch : (e'.pitch : Real.Angle) = e.pitch
  yaw : (e'.yaw : Real.Angle) = e.yaw

/-- The angles that reach the same attitude over the other side of the vertical. -/
noncomputable def flipped (e : Euler ℝ) : Euler ℝ :=
  { roll := e.roll + Real.pi, pitch := Real.pi - e.pitch, yaw := e.yaw + Real.pi }

variable {e e' : Euler ℝ}

theorem rotation_flipped (e : Euler ℝ) : e.flipped.rotation = e.rotation := by
  ext <;> simp [rotation, flipped, Real.sin_add_pi, Real.cos_add_pi, Real.sin_pi_sub,
    Real.cos_pi_sub]

namespace Coterminal

variable (h : e.Coterminal e')

include h

theorem sin_roll : Real.sin e'.roll = Real.sin e.roll := congrArg Real.Angle.sin h.roll

theorem cos_roll : Real.cos e'.roll = Real.cos e.roll := congrArg Real.Angle.cos h.roll

theorem sin_pitch : Real.sin e'.pitch = Real.sin e.pitch := congrArg Real.Angle.sin h.pitch

theorem cos_pitch : Real.cos e'.pitch = Real.cos e.pitch := congrArg Real.Angle.cos h.pitch

theorem sin_yaw : Real.sin e'.yaw = Real.sin e.yaw := congrArg Real.Angle.sin h.yaw

theorem cos_yaw : Real.cos e'.yaw = Real.cos e.yaw := congrArg Real.Angle.cos h.yaw

theorem rotation : e'.rotation = e.rotation := by
  simp only [Euler.rotation, sin_real, cos_real, h.sin_roll, h.cos_roll, h.sin_pitch, h.cos_pitch,
    h.sin_yaw, h.cos_yaw]

theorem rateOfTurn? (w : Vec3 ℝ) : e'.rateOfTurn? w = e.rateOfTurn? w := by
  simp only [Euler.rateOfTurn?, sin_real, cos_real, h.sin_roll, h.cos_roll, h.sin_pitch,
    h.cos_pitch]

theorem drift (rate : Euler ℝ) (dt : ℝ) : (e.drift rate dt).Coterminal (e'.drift rate dt) where
  roll := by
    show ((e'.roll + rate.roll * dt : ℝ) : Real.Angle) = (e.roll + rate.roll * dt : ℝ)
    rw [Real.Angle.coe_add, h.roll, ← Real.Angle.coe_add]
  pitch := by
    show ((e'.pitch + rate.pitch * dt : ℝ) : Real.Angle) = (e.pitch + rate.pitch * dt : ℝ)
    rw [Real.Angle.coe_add, h.pitch, ← Real.Angle.coe_add]
  yaw := by
    show ((e'.yaw + rate.yaw * dt : ℝ) : Real.Angle) = (e.yaw + rate.yaw * dt : ℝ)
    rw [Real.Angle.coe_add, h.yaw, ← Real.Angle.coe_add]

end Coterminal

/-- The matrix shows the sine of the pitch, and the other angles up to the sign of its cosine. -/
theorem rotation_eq_iff (hc : Real.cos e.pitch ≠ 0) :
    e'.rotation = e.rotation ↔ e.Coterminal e' ∨ e.flipped.Coterminal e' := by
  constructor
  · intro h
    have hcy := congrArg (·.r1.x) h
    have hsy := congrArg (·.r2.x) h
    have hsp := congrArg (·.r3.x) h
    have hsr := congrArg (·.r3.y) h
    have hcr := congrArg (·.r3.z) h
    simp only [rotation, sin_real, cos_real, neg_inj] at hcy hsy hsp hsr hcr
    have hcp : Real.cos e'.pitch * Real.cos e'.pitch = Real.cos e.pitch * Real.cos e.pitch := by
      linear_combination Real.sin_sq_add_cos_sq e'.pitch - Real.sin_sq_add_cos_sq e.pitch -
        (Real.sin e'.pitch + Real.sin e.pitch) * hsp
    rcases mul_self_eq_mul_self_iff.1 hcp with hcp | hcp
    · rw [hcp] at hcy hsy hsr hcr
      exact .inl
        { roll := Real.Angle.cos_sin_inj (mul_left_cancel₀ hc hcr) (mul_left_cancel₀ hc hsr)
          pitch := Real.Angle.cos_sin_inj hcp hsp
          yaw := Real.Angle.cos_sin_inj (mul_right_cancel₀ hc hcy) (mul_right_cancel₀ hc hsy) }
    · rw [hcp] at hcy hsy hsr hcr
      refine .inr
        { roll := Real.Angle.cos_sin_inj ?_ ?_
          pitch := Real.Angle.cos_sin_inj ?_ ?_
          yaw := Real.Angle.cos_sin_inj ?_ ?_ }
      · rw [flipped, Real.cos_add_pi]
        exact mul_left_cancel₀ hc (by linarith)
      · rw [flipped, Real.sin_add_pi]
        exact mul_left_cancel₀ hc (by linarith)
      · rw [flipped, Real.cos_pi_sub, hcp]
      · rw [flipped, Real.sin_pi_sub, hsp]
      · rw [flipped, Real.cos_add_pi]
        exact mul_right_cancel₀ hc (by linarith)
      · rw [flipped, Real.sin_add_pi]
        exact mul_right_cancel₀ hc (by linarith)
  · rintro (h | h)
    · exact h.rotation
    · rw [h.rotation, rotation_flipped]

/-! ## Steps of the angles -/

/-- So close to the vertical the angles have no derivatives. -/
def IsLocked (e : Euler ℝ) : Prop := |Real.cos e.pitch| < Scalar.epsilon

/-- The angles after a step of length `dt` under the angular velocity `w`. -/
def step {α : Type} [Scalar α] (e : Euler α) (w : Vec3 α) (dt : α) : Euler α :=
  match e.rateOfTurn? w with
  | some rate => e.advance rate dt
  | none => e

theorem IsLocked.rateOfTurn? (h : e.IsLocked) (w : Vec3 ℝ) : e.rateOfTurn? w = none := if_pos h

theorem cos_pitch_ne_zero (h : ¬ e.IsLocked) : Real.cos e.pitch ≠ 0 :=
  cos_pitch_ne_zero_of_le (not_lt.1 h)

theorem IsLocked.step (h : e.IsLocked) (w : Vec3 ℝ) (dt : ℝ) : e.step w dt = e := by
  rw [Euler.step, h.rateOfTurn?]

theorem rotation_step {w : Vec3 ℝ} {rate : Euler ℝ} (h : e.rateOfTurn? w = some rate) (dt : ℝ) :
    (e.step w dt).rotation = (e.drift rate dt).rotation := by
  rw [step, h]
  exact rotation_advance e rate dt

/-- Without a turn the angles may be brought back by full turns, but the rotation is kept. -/
theorem rotation_step_zero (e : Euler ℝ) (dt : ℝ) : (e.step 0 dt).rotation = e.rotation := by
  by_cases hlock : e.IsLocked
  · rw [hlock.step]
  · have hrate : e.rateOfTurn? 0 = some 0 := by
      refine (if_neg hlock).trans (congrArg some ?_)
      simp
      rfl
    have hzero : (0 : Euler ℝ) = ⟨0, 0, 0⟩ := rfl
    have hdrift : e.drift 0 dt = e := by
      simp [drift, hzero, ofVec3, toVec3]
    rw [rotation_step hrate, hdrift]

/-- On the other side of the vertical the pitch runs backward. -/
theorem rateOfTurn?_flipped (e : Euler ℝ) (w : Vec3 ℝ) : e.flipped.rateOfTurn? w =
    (e.rateOfTurn? w).map fun rate => { rate with pitch := -rate.pitch } := by
  simp only [rateOfTurn?, flipped, sin_real, cos_real, abs_real, Real.sin_add_pi, Real.cos_add_pi,
    Real.sin_pi_sub, Real.cos_pi_sub, abs_neg]
  by_cases h : |Real.cos e.pitch| < Scalar.epsilon
  · rw [if_pos h, if_pos h, Option.map_none]
  · rw [if_neg h, if_neg h, Option.map_some]
    refine congrArg some ?_
    simp only [mk.injEq]
    refine ⟨?_, ?_, ?_⟩ <;> ring

theorem drift_flipped (e rate : Euler ℝ) (dt : ℝ) :
    e.flipped.drift { rate with pitch := -rate.pitch } dt = (e.drift rate dt).flipped := by
  simp only [drift, flipped, toVec3, ofVec3, mk.injEq, Vec3.add_x, Vec3.add_y, Vec3.add_z,
    Vec3.scale_x, Vec3.scale_y, Vec3.scale_z]
  refine ⟨?_, ?_, ?_⟩ <;> ring

theorem isLocked_congr (h : e'.rotation = e.rotation) : e'.IsLocked ↔ e.IsLocked := by
  have hsp := congrArg (·.r3.x) h
  simp only [rotation, sin_real, neg_inj] at hsp
  rw [IsLocked, IsLocked, Real.abs_cos_eq_sqrt_one_sub_sin_sq, Real.abs_cos_eq_sqrt_one_sub_sin_sq,
    hsp]

/-- Where a step leads depends on the rotation only, not on the angles that describe it. -/
theorem rotation_step_congr (h : e'.rotation = e.rotation) (w : Vec3 ℝ) (dt : ℝ) :
    (e'.step w dt).rotation = (e.step w dt).rotation := by
  by_cases hlock : e.IsLocked
  · rw [hlock.step, ((isLocked_congr h).2 hlock).step, h]
  obtain ⟨rate, hrate, -⟩ := exists_rateOfTurn (not_lt.1 hlock) w
  rw [rotation_step hrate]
  rcases (rotation_eq_iff (cos_pitch_ne_zero hlock)).1 h with hsame | hflip
  · rw [rotation_step ((hsame.rateOfTurn? w).trans hrate)]
    exact (hsame.drift rate dt).rotation
  · have hback : e'.rateOfTurn? w = some { rate with pitch := -rate.pitch } := by
      rw [hflip.rateOfTurn?, rateOfTurn?_flipped, hrate, Option.map_some]
    rw [rotation_step hback, (hflip.drift _ dt).rotation, drift_flipped, rotation_flipped]

/-! ## Steps back to the same rotation -/

/-- A step at the derivatives `rate` leads to other angles of the same rotation: roll and yaw turn
all the way around, or both by a half while the pitch passes to the other side of the vertical. -/
inductive Laps (e rate : Euler ℝ) (dt : ℝ) : Prop
  | around (roll : ((rate.roll * dt : ℝ) : Real.Angle) = 0) (pitch : rate.pitch = 0)
    (yaw : ((rate.yaw * dt : ℝ) : Real.Angle) = 0)
  | across (roll : ((rate.roll * dt : ℝ) : Real.Angle) = Real.pi)
    (pitch : ((e.pitch + rate.pitch * dt : ℝ) : Real.Angle) = (Real.pi - e.pitch : ℝ))
    (yaw : ((rate.yaw * dt : ℝ) : Real.Angle) = Real.pi)

variable {rate : Euler ℝ} {dt : ℝ}

theorem eq_zero_of_coe_eq_zero {x : ℝ} (h : (x : Real.Angle) = 0) (hx : |x| < 2 * Real.pi) :
    x = 0 := by
  obtain ⟨k, rfl⟩ := Real.Angle.coe_eq_zero_iff.1 h
  rw [zsmul_eq_mul, abs_mul, abs_of_pos Real.two_pi_pos, mul_lt_iff_lt_one_left Real.two_pi_pos,
    ← Int.cast_abs] at hx
  have hk : k = 0 := Int.abs_lt_one_iff.1 (by exact_mod_cast hx)
  rw [hk, zero_smul]

theorem pi_le_abs_of_coe {x : ℝ} (h : (x : Real.Angle) = 0 ∨ (x : Real.Angle) = Real.pi)
    (hx : x ≠ 0) : Real.pi ≤ |x| := by
  by_contra hlt
  have htwice : ((2 * x : ℝ) : Real.Angle) = 0 := by
    rw [two_mul, Real.Angle.coe_add, ← two_nsmul]
    exact Real.Angle.two_nsmul_eq_zero_iff.2 h
  have hzero := eq_zero_of_coe_eq_zero htwice (by rw [abs_mul, abs_two]; linarith)
  exact hx (by linarith)

theorem rotation_drift_eq_iff (hc : Real.cos e.pitch ≠ 0) (hdt : 0 < dt)
    (hslow : |rate.pitch * dt| < 2 * Real.pi) :
    (e.drift rate dt).rotation = e.rotation ↔ e.Laps rate dt := by
  have hdrift : e.drift rate dt =
      ⟨e.roll + rate.roll * dt, e.pitch + rate.pitch * dt, e.yaw + rate.yaw * dt⟩ := rfl
  rw [rotation_eq_iff hc, hdrift]
  constructor
  · rintro (⟨hr, hp, hy⟩ | ⟨hr, hp, hy⟩)
    · rw [Real.Angle.coe_add, add_eq_left] at hr hp hy
      have hpitch := eq_zero_of_coe_eq_zero hp hslow
      exact .around hr ((mul_eq_zero.1 hpitch).resolve_right hdt.ne') hy
    · simp only [flipped] at hr hp hy
      rw [Real.Angle.coe_add, Real.Angle.coe_add, add_right_inj] at hr hy
      exact .across hr hp hy
  · rintro (⟨hr, hp, hy⟩ | ⟨hr, hp, hy⟩)
    · refine .inl ⟨?_, ?_, ?_⟩
      · rw [Real.Angle.coe_add, hr, add_zero]
      · rw [hp, zero_mul, add_zero]
      · rw [Real.Angle.coe_add, hy, add_zero]
    · refine .inr ⟨?_, hp, ?_⟩
      · rw [Real.Angle.coe_add, hr, flipped, Real.Angle.coe_add]
      · rw [Real.Angle.coe_add, hy, flipped, Real.Angle.coe_add]

/-! ### The speed that this takes -/

theorem dot_turnOfRate (e rate : Euler ℝ) :
    (e.turnOfRate rate).dot (e.turnOfRate rate) = rate.roll ^ 2 + rate.pitch ^ 2 + rate.yaw ^ 2 -
      2 * Real.sin e.pitch * rate.roll * rate.yaw := by
  simp only [turnOfRate, Vec3.dot, sin_real, cos_real]
  linear_combination (rate.pitch ^ 2 + Real.cos e.pitch ^ 2 * rate.yaw ^ 2) *
    Real.sin_sq_add_cos_sq e.roll + rate.yaw ^ 2 * Real.sin_sq_add_cos_sq e.pitch

theorem abs_pitch_le_norm (e rate : Euler ℝ) : |rate.pitch| ≤ (e.turnOfRate rate).norm := by
  refine Real.abs_le_sqrt ?_
  rw [dot_turnOfRate]
  nlinarith [sq_nonneg (rate.roll - Real.sin e.pitch * rate.yaw),
    sq_nonneg (Real.cos e.pitch * rate.yaw), Real.sin_sq_add_cos_sq e.pitch]

theorem abs_cos_mul_roll_le_norm (e rate : Euler ℝ) :
    |Real.cos e.pitch * rate.roll| ≤ (e.turnOfRate rate).norm := by
  refine Real.abs_le_sqrt ?_
  rw [dot_turnOfRate]
  nlinarith [sq_nonneg (rate.yaw - Real.sin e.pitch * rate.roll), sq_nonneg rate.pitch,
    Real.sin_sq_add_cos_sq e.pitch]

theorem abs_cos_mul_yaw_le_norm (e rate : Euler ℝ) :
    |Real.cos e.pitch * rate.yaw| ≤ (e.turnOfRate rate).norm := by
  refine Real.abs_le_sqrt ?_
  rw [dot_turnOfRate]
  nlinarith [sq_nonneg (rate.roll - Real.sin e.pitch * rate.yaw), sq_nonneg rate.pitch,
    Real.sin_sq_add_cos_sq e.pitch]

/-- A derivative that takes its angle by a half or a whole turn in a step is fast. -/
theorem pi_mul_le_of_coe {r c speed : ℝ} (hdt : 0 < dt) (hspeed : |c * r| ≤ speed) (hr : r ≠ 0)
    (hturn : ((r * dt : ℝ) : Real.Angle) = 0 ∨ ((r * dt : ℝ) : Real.Angle) = Real.pi) :
    Real.pi * |c| ≤ speed * dt := by
  have hlong := pi_le_abs_of_coe hturn (mul_ne_zero hr hdt.ne')
  calc Real.pi * |c|
      ≤ |r * dt| * |c| := mul_le_mul_of_nonneg_right hlong (abs_nonneg _)
    _ = |c * r| * dt := by rw [abs_mul, abs_of_pos hdt, abs_mul]; ring
    _ ≤ speed * dt := mul_le_mul_of_nonneg_right hspeed hdt.le

/-- A step back to the same rotation is a fast turn, unless the vertical is near. -/
theorem Laps.pi_mul_le (h : e.Laps rate dt) (hw : e.turnOfRate rate ≠ 0) (hdt : 0 < dt) :
    Real.pi * |Real.cos e.pitch| ≤ (e.turnOfRate rate).norm * dt := by
  have hroll := abs_cos_mul_roll_le_norm e rate
  have hyaw := abs_cos_mul_yaw_le_norm e rate
  cases h with
  | around hr hp hy =>
    by_cases hr0 : rate.roll = 0
    · by_cases hy0 : rate.yaw = 0
      · have hstill : e.turnOfRate rate = 0 := by
          ext <;> simp [turnOfRate, hr0, hp, hy0]
        exact absurd hstill hw
      · exact pi_mul_le_of_coe hdt hyaw hy0 (.inl hy)
    · exact pi_mul_le_of_coe hdt hroll hr0 (.inl hr)
  | across hr hp hy =>
    have hr0 : rate.roll ≠ 0 := by
      intro h0
      rw [h0, zero_mul, Real.Angle.coe_zero] at hr
      exact Real.Angle.pi_ne_zero hr.symm
    exact pi_mul_le_of_coe hdt hroll hr0 (.inr hr)

end Euler

/-! ## Any number of steps -/

namespace Attitude

/-- No number of steps of length `dt` under the angular velocity `w` changes the rotation. -/
def Frozen (a : Attitude ℝ) (w : Vec3 ℝ) (dt : ℝ) : Prop :=
  ∀ n : ℕ, ((fun b : Attitude ℝ => b.advance w dt)^[n] a).rotation = a.rotation

variable {e : Euler ℝ} {w : Vec3 ℝ} {dt : ℝ}

theorem advance_euler (e : Euler ℝ) (w : Vec3 ℝ) (dt : ℝ) :
    (euler e).advance w dt = euler (e.step w dt) := by
  unfold advance Euler.step
  dsimp only
  cases e.rateOfTurn? w <;> rfl

theorem iterate_advance_euler (e : Euler ℝ) (w : Vec3 ℝ) (dt : ℝ) (n : ℕ) :
    (fun b : Attitude ℝ => b.advance w dt)^[n] (euler e) =
      euler ((fun e : Euler ℝ => e.step w dt)^[n] e) := by
  induction n with
  | zero => rfl
  | succ n ih => rw [Function.iterate_succ_apply', ih, advance_euler, Function.iterate_succ_apply']

/-- What the first step leaves alone, all further steps do. -/
theorem frozen_euler_iff : (euler e).Frozen w dt ↔ (e.step w dt).rotation = e.rotation := by
  constructor
  · intro h
    have hfirst := h 1
    rwa [Function.iterate_one, advance_euler] at hfirst
  · intro h n
    rw [iterate_advance_euler]
    show ((fun e : Euler ℝ => e.step w dt)^[n] e).rotation = e.rotation
    induction n with
    | zero => rfl
    | succ n ih =>
      rw [Function.iterate_succ_apply', Euler.rotation_step_congr ih, h]

theorem frozen_euler_iff_laps (hlock : ¬ e.IsLocked) (hdt : 0 < dt) (hslow : w.norm * dt < 1)
    {rate : Euler ℝ} (hrate : e.rateOfTurn? w = some rate) (hturn : e.turnOfRate rate = w) :
    (euler e).Frozen w dt ↔ e.Laps rate dt := by
  have hpitch : |rate.pitch * dt| < 2 * Real.pi := by
    have hle := mul_le_mul_of_nonneg_right (Euler.abs_pitch_le_norm e rate) hdt.le
    rw [hturn] at hle
    rw [abs_mul, abs_of_pos hdt]
    linarith [Real.two_le_pi]
  rw [frozen_euler_iff, Euler.rotation_step hrate,
    Euler.rotation_drift_eq_iff (Euler.cos_pitch_ne_zero hlock) hdt hpitch]

/-- Euler angles stand still under a slow turn if they are locked, or if each step leads to other
angles of the same rotation, and then the turn is not slow for the angle from the vertical.  From
all others the first step leads to another rotation. -/
theorem frozen_iff (e : Euler ℝ) (hw : w ≠ 0) (hdt : 0 < dt) (hslow : w.norm * dt < 1) :
    ((ofAngles .euler e).Frozen w dt ↔
        e.IsLocked ∨ ∃ rate, e.rateOfTurn? w = some rate ∧ e.Laps rate dt) ∧
      (¬ (ofAngles .euler e).Frozen w dt →
        ((ofAngles .euler e).advance w dt).rotation ≠ (ofAngles .euler e).rotation) ∧
      (w.norm * dt < Real.pi * |Real.cos e.pitch| → ¬ e.IsLocked →
        ¬ (ofAngles .euler e).Frozen w dt) := by
  show ((euler e).Frozen w dt ↔ _) ∧ (¬ (euler e).Frozen w dt → _) ∧
    (_ → _ → ¬ (euler e).Frozen w dt)
  refine ⟨?_, ?_, ?_⟩
  · by_cases hlock : e.IsLocked
    · refine iff_of_true ?_ (.inl hlock)
      rw [frozen_euler_iff, hlock.step]
    · obtain ⟨rate, hrate, hturn⟩ := Euler.exists_rateOfTurn (not_lt.1 hlock) w
      rw [frozen_euler_iff_laps hlock hdt hslow hrate hturn, or_iff_right hlock]
      constructor
      · intro hlaps
        exact ⟨rate, hrate, hlaps⟩
      · rintro ⟨rate', hrate', hlaps⟩
        rw [hrate, Option.some.injEq] at hrate'
        rwa [hrate']
  · intro hmoves hstep
    refine hmoves (frozen_euler_iff.2 ?_)
    change ((euler e).advance w dt).rotation = _ at hstep
    rwa [advance_euler] at hstep
  · intro hnear hlock hfrozen
    obtain ⟨rate, hrate, hturn⟩ := Euler.exists_rateOfTurn (not_lt.1 hlock) w
    have hlaps := (frozen_euler_iff_laps hlock hdt hslow hrate hturn).1 hfrozen
    have hle := hlaps.pi_mul_le (by rwa [hturn]) hdt
    rw [hturn] at hle
    linarith

/-! ### A slow turn that is seen and two that are not -/

/-- A body that pitches up by one radian is far enough from the vertical. -/
theorem frozen_iff_tumbling :
    let w : Vec3 ℝ := ⟨1, 2, 3⟩
    let e : Euler ℝ := ⟨0.3, 1, -2⟩
    w ≠ 0 ∧ w.norm * (1 / 100) < 1 ∧
      ((ofAngles .euler e).advance w (1 / 100)).rotation ≠ e.rotation := by
  intro w e
  have hw : w ≠ 0 := by
    intro h
    exact one_ne_zero (congrArg Vec3.x h)
  have hnorm : w.norm ≤ 4 := by
    refine Real.sqrt_le_iff.2 ⟨by norm_num, ?_⟩
    norm_num [w, Vec3.dot]
  have hcos : (1 / 2 : ℝ) ≤ |Real.cos e.pitch| := by
    have hquadratic := Real.one_sub_sq_div_two_le_cos (x := e.pitch)
    refine le_trans ?_ (le_abs_self _)
    refine le_trans ?_ hquadratic
    norm_num [e]
  have hlock : ¬ e.IsLocked := by
    refine not_lt.2 (le_trans ?_ hcos)
    norm_num [Scalar.epsilon]
  have hslow : w.norm * (1 / 100) < 1 := by linarith
  have hnear : w.norm * (1 / 100) < Real.pi * |Real.cos e.pitch| := by
    have hle := mul_le_mul Real.two_le_pi hcos (by norm_num) Real.pi_pos.le
    linarith
  obtain ⟨-, hfirst, hmoves⟩ := frozen_iff e hw (by norm_num : (0 : ℝ) < 1 / 100) hslow
  exact ⟨hw, hslow, hfirst (hmoves hnear hlock)⟩

/-- The nose less than six degrees from straight up. -/
noncomputable def steep : Euler ℝ := { roll := 0, pitch := Real.arcsin (399 / 401), yaw := 0 }

theorem sin_pitch_steep : Real.sin steep.pitch = 399 / 401 :=
  Real.sin_arcsin (by norm_num) (by norm_num)

theorem cos_pitch_steep : Real.cos steep.pitch = 40 / 401 := by
  have hsquare : (1 - (399 / 401) ^ 2 : ℝ) = (40 / 401) ^ 2 := by norm_num
  rw [steep, Real.cos_arcsin, hsquare, Real.sqrt_sq (by norm_num)]

/-- Straight up an attitude is locked.  Near that, a body that turns by a tenth of a full turn in a
step may have its roll and its yaw turn by a full turn each. -/
theorem frozen_upright_and_steep :
    let up : Euler ℝ := { roll := 0, pitch := Real.pi / 2, yaw := 0 }
    let w : Vec3 ℝ := ⟨4 * Real.pi / 401, 0, 80 * Real.pi / 401⟩
    ((⟨0, 0, 1⟩ : Vec3 ℝ) ≠ 0 ∧ (⟨0, 0, 1⟩ : Vec3 ℝ).norm * (1 / 1000) < 1 ∧
      (ofAngles .euler up).Frozen ⟨0, 0, 1⟩ (1 / 1000)) ∧
    ¬ steep.IsLocked ∧ w ≠ 0 ∧ w.norm * 1 < 1 ∧ (ofAngles .euler steep).Frozen w 1 := by
  intro up w
  have hup : up.IsLocked := by
    rw [Euler.IsLocked, Real.cos_pi_div_two, abs_zero]
    norm_num [Scalar.epsilon]
  have hsteep : ¬ steep.IsLocked := by
    rw [Euler.IsLocked, cos_pitch_steep]
    norm_num [Scalar.epsilon]
  have hslow : w.norm * 1 < 1 := by
    rw [mul_one]
    refine (Real.sqrt_lt' one_pos).2 ?_
    simp only [w, Vec3.dot]
    nlinarith [Real.pi_pos, Real.pi_le_four]
  have hrate : steep.rateOfTurn? w =
      some { roll := 2 * Real.pi, pitch := 0, yaw := 2 * Real.pi } := by
    refine (if_neg hsteep).trans (congrArg some ?_)
    simp only [Euler.mk.injEq, sin_real, cos_real, sin_pitch_steep, cos_pitch_steep]
    refine ⟨?_, ?_, ?_⟩ <;> simp [steep, w] <;> ring
  have hturn : steep.turnOfRate { roll := 2 * Real.pi, pitch := 0, yaw := 2 * Real.pi } = w := by
    obtain ⟨rate, hrate', hturn⟩ := Euler.exists_rateOfTurn (not_lt.1 hsteep) w
    rw [hrate, Option.some.injEq] at hrate'
    rw [hrate', hturn]
  refine ⟨⟨?_, ?_, ?_⟩, hsteep, ?_, hslow, ?_⟩
  · intro h
    exact one_ne_zero (congrArg Vec3.z h)
  · norm_num [Vec3.norm_eq, Vec3.dot]
  · exact frozen_euler_iff.2 (by rw [hup.step])
  · intro h
    have hz : 80 * Real.pi / 401 = 0 := congrArg Vec3.z h
    linarith [Real.pi_pos]
  · refine (frozen_euler_iff_laps hsteep one_pos hslow hrate hturn).2 (.around ?_ rfl ?_)
    · rw [mul_one, Real.Angle.coe_two_pi]
    · rw [mul_one, Real.Angle.coe_two_pi]

end Attitude

end Multirotor
