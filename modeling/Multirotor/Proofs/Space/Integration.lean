import Mathlib.Analysis.Real.Pi.Bounds
import Multirotor.Proofs.Body.Poised
import Multirotor.Proofs.Body.Views
import Multirotor.Proofs.Space.AxisAngle
import Multirotor.Proofs.Space.Standstill

/-!
# Attitudes that are integrated

What the steps of an attitude keep, over any number of them (`Attitude.after`).

A quaternion stays unit, and under a constant angular velocity its steps are turns about one axis
that add up (`Attitude.quaternion_turns`).  Euler angles keep roll and yaw within half a turn, since
a step brings these two back, and lose nothing by it, since the rotation does not see full turns.
The pitch is not brought back: it is the sum of what the steps add to it.  Hence it stays within
half a turn as long as the body has not turned far (`Attitude.angles_turned`), and a body that
loops about its right axis reports a pitch that grows with every loop (`Attitude.turned_looping`).
-/

namespace Multirotor

/-- A use of an attitude. -/
inductive AttitudeOperation (α : Type) where
  | setAngles (e : Euler α)
  | advance (w : Vec3 α) (dt : α)
  deriving DecidableEq, Repr

namespace Attitude

variable {α : Type} [Scalar α]

/-- The attitude after one operation. -/
def perform (a : Attitude α) : AttitudeOperation α → Attitude α
  | .setAngles e => a.setAngles e
  | .advance w dt => a.advance w dt

/-- The attitude after a sequence of operations. -/
def after (a : Attitude α) (ops : List (AttitudeOperation α)) : Attitude α := ops.foldl perform a

/-- The attitude after steps under the given angular velocities, each over its own time. -/
def turned (a : Attitude α) (turns : List (Vec3 α × α)) : Attitude α :=
  a.after (turns.map fun turn => .advance turn.1 turn.2)

end Attitude

/-! ## Quaternions -/

namespace Attitude

theorem IsUnit.after {a : Attitude ℝ} (h : a.IsUnit) (ops : List (AttitudeOperation ℝ)) :
    (a.after ops).IsUnit := by
  induction ops generalizing a with
  | nil => exact h
  | cons op ops ih =>
    refine ih ?_
    cases op with
    | setAngles e => exact h.setAngles e
    | advance w dt => exact h.advance w dt

variable {q : Quaternion ℝ}

theorem after_replicate_zero (h : q.normSq = 1) (dt : ℝ) (n : ℕ) :
    (quaternion q).after (List.replicate n (.advance 0 dt)) = quaternion q := by
  induction n with
  | zero => rfl
  | succ n ih =>
    show ((quaternion q).advance 0 dt).after _ = _
    rw [advance, Quaternion.advance_zero h, ih]

/-- Steps under a constant angular velocity are turns about one axis. -/
theorem after_replicate_advance (h : q.normSq = 1) {w : Vec3 ℝ} (hw : 0 < w.norm) (dt : ℝ)
    (n : ℕ) : (quaternion q).after (List.replicate n (.advance w dt)) =
      quaternion (q * .ofAxisAngle (w / w.norm) (n * (2 * Real.arctan (w.norm * dt / 2)))) := by
  induction n generalizing q with
  | zero =>
    rw [Nat.cast_zero, zero_mul, Quaternion.mul_ofAxisAngle_zero]
    rfl
  | succ n ih =>
    have haxis := Vec3.dot_self_div_norm hw
    calc (quaternion q).after (List.replicate (n + 1) (.advance w dt))
        = (quaternion (q.advance w dt)).after (List.replicate n (.advance w dt)) := rfl
      _ = quaternion (q.advance w dt *
            .ofAxisAngle (w / w.norm) (n * (2 * Real.arctan (w.norm * dt / 2)))) :=
          ih (Quaternion.normSq_advance h w dt)
      _ = quaternion (q *
            .ofAxisAngle (w / w.norm) ((n + 1 : ℕ) * (2 * Real.arctan (w.norm * dt / 2)))) := by
          rw [Quaternion.advance_eq_mul h, Quaternion.step_eq_ofAxisAngle hw,
            Quaternion.mul_assoc, ← Quaternion.ofAxisAngle_add haxis]
          congr 3
          push_cast
          ring

/-- A step of a unit quaternion never divides by zero and leads to a unit quaternion, as setting the
angles does.  Under a constant angular velocity `w` each step turns the body about the axis of `w`
by twice the angle whose tangent is half of `w.norm * dt`. -/
theorem quaternion_turns (h : q.normSq = 1) :
    (∀ (w : Vec3 ℝ) (dt : ℝ),
      (q + q.rateOfTurn w * dt).normSq = 1 + (w.norm * dt / 2) ^ 2 ∧
      0 < (q + q.rateOfTurn w * dt).norm ∧ (q.advance w dt).normSq = 1) ∧
    (∀ ops, ((quaternion q).after ops).IsUnit) ∧
    ∀ (w : Vec3 ℝ) (dt : ℝ) (n : ℕ),
      let turned := (quaternion q).after (List.replicate n (.advance w dt))
      (w = 0 → turned.rotation = q.rotation) ∧
      (w ≠ 0 → turned.rotation = q.rotation *
        .turnAbout (w / w.norm) (2 * n * Real.arctan (w.norm * dt / 2))) := by
  refine ⟨fun w dt => ?_, fun ops => IsUnit.after ⟨q, rfl, h⟩ ops, fun w dt n => ⟨?_, ?_⟩⟩
  · have hlength : (q + q.rateOfTurn w * dt).normSq = 1 + (w.norm * dt / 2) ^ 2 := by
      rw [Quaternion.add_rateOfTurn_eq_mul, Quaternion.normSq_mul, h, one_mul,
        Quaternion.normSq_unscaled]
    refine ⟨hlength, ?_, Quaternion.normSq_advance h w dt⟩
    rw [Quaternion.norm_eq, hlength]
    positivity
  · rintro rfl
    rw [after_replicate_zero h]
    rfl
  · intro hw
    have hspeed := Vec3.norm_pos hw
    rw [after_replicate_advance h hspeed, rotation, Quaternion.rotation_mul,
      Quaternion.rotation_ofAxisAngle (Vec3.dot_self_div_norm hspeed)]
    congr 2
    ring

/-- Two radians per second turn a body by a quarter in a step of one second, and four such steps
bring it back. -/
theorem quaternion_turns_around :
    let q : Quaternion ℝ := ⟨3 / 5, 0, 0, 4 / 5⟩
    q.normSq = 1 ∧ (⟨0, 0, 2⟩ : Vec3 ℝ) ≠ 0 ∧
      ((quaternion q).after (List.replicate 4 (.advance ⟨0, 0, 2⟩ 1))).rotation = q.rotation := by
  intro q
  have hq : q.normSq = 1 := by norm_num [q, Quaternion.normSq]
  have hw : (⟨0, 0, 2⟩ : Vec3 ℝ) ≠ 0 := fun h => two_ne_zero (congrArg Vec3.z h)
  have hnorm : (⟨0, 0, 2⟩ : Vec3 ℝ).norm = 2 := (Vec3.norm_vertical 2).trans (abs_of_pos two_pos)
  refine ⟨hq, hw, ?_⟩
  have hturns := ((quaternion_turns hq).2.2 ⟨0, 0, 2⟩ 1 4).2 hw
  have hangle : 2 * ((4 : ℕ) : ℝ) * Real.arctan (2 * 1 / 2) = (1 : ℕ) * (2 * Real.pi) := by
    rw [mul_one, div_self two_ne_zero, Real.arctan_one]
    push_cast
    ring
  rw [hnorm, hangle, Mat3.turnAbout_full] at hturns
  rw [hturns, Mat3.mul_diagonal_one]

end Attitude

/-! ## Euler angles -/

namespace Euler

/-- Roll, pitch and yaw are at most half a turn to either side. -/
structure WithinHalfTurn (e : Euler ℝ) : Prop where
  roll : |e.roll| ≤ Real.pi
  pitch : |e.pitch| ≤ Real.pi
  yaw : |e.yaw| ≤ Real.pi

variable {e : Euler ℝ}

/-! ### One step -/

theorem abs_wrapAngle_le (x : ℝ) : |wrapAngle x| ≤ Real.pi := by
  obtain ⟨hlow, hhigh⟩ := wrapAngle_mem x
  exact abs_le.2 ⟨hlow.le, hhigh⟩

/-- A step brings roll and yaw back, and leaves them where they are when the pitch is locked. -/
theorem abs_step_le (hroll : |e.roll| ≤ Real.pi) (hyaw : |e.yaw| ≤ Real.pi) (w : Vec3 ℝ) (dt : ℝ) :
    |(e.step w dt).roll| ≤ Real.pi ∧ |(e.step w dt).yaw| ≤ Real.pi := by
  unfold step
  cases e.rateOfTurn? w with
  | none => exact ⟨hroll, hyaw⟩
  | some rate => exact ⟨abs_wrapAngle_le _, abs_wrapAngle_le _⟩

/-- The pitch changes no faster than the body turns. -/
theorem abs_pitch_step_sub_le (e : Euler ℝ) (w : Vec3 ℝ) (dt : ℝ) :
    |(e.step w dt).pitch - e.pitch| ≤ w.norm * |dt| := by
  by_cases hlock : e.IsLocked
  · rw [hlock.step, sub_self, abs_zero]
    exact mul_nonneg (Real.sqrt_nonneg _) (abs_nonneg dt)
  · obtain ⟨rate, hrate, hturn⟩ := exists_rateOfTurn (not_lt.1 hlock) w
    have hstep : (e.step w dt).pitch = e.pitch + rate.pitch * dt := by
      rw [step, hrate]
      rfl
    rw [hstep, add_sub_cancel_left, abs_mul, ← hturn]
    exact mul_le_mul_of_nonneg_right (abs_pitch_le_norm e rate) (abs_nonneg dt)

/-- Upright, a body that turns about its right axis changes its pitch only. -/
theorem step_looping {p : ℝ} (hlock : ¬ IsLocked ⟨0, p, 0⟩) (rate dt : ℝ) :
    step ⟨0, p, 0⟩ ⟨0, rate, 0⟩ dt = ⟨0, p + rate * dt, 0⟩ := by
  have hzero : wrapAngle (0 : ℝ) = 0 :=
    wrapAngle_of_mem (neg_lt_zero.2 Real.pi_pos) Real.pi_pos.le
  have hrate : rateOfTurn? ⟨0, p, 0⟩ ⟨0, rate, 0⟩ = some ⟨0, rate, 0⟩ := by
    refine (if_neg hlock).trans (congrArg some ?_)
    simp
  rw [step, hrate]
  simp only [advance, zero_mul, add_zero, hzero]

/-- A pitch that is a little less or more than a quarter turn is not locked. -/
theorem not_isLocked_of_far {p : ℝ} (hnear : |Real.pi / 2 - p| ≤ Real.pi / 2)
    (hfar : 1 / 10000 ≤ |Real.pi / 2 - p|) : ¬ IsLocked ⟨0, p, 0⟩ := by
  have hsin := Real.mul_abs_le_abs_sin hnear
  rw [Real.sin_pi_div_two_sub] at hsin
  have hslope : 1 / 2 ≤ 2 / Real.pi := by
    rw [le_div_iff₀ Real.pi_pos]
    linarith [Real.pi_le_four]
  have hproduct := mul_le_mul hslope hfar (by norm_num) (by positivity)
  refine not_lt.2 (le_trans ?_ (hproduct.trans hsin))
  norm_num [Scalar.epsilon]

end Euler

/-! ### Any number of steps -/

namespace Attitude

variable {e : Euler ℝ}

theorem turned_append (a : Attitude ℝ) (xs ys : List (Vec3 ℝ × ℝ)) :
    a.turned (xs ++ ys) = (a.turned xs).turned ys := by
  rw [turned, List.map_append, after, List.foldl_append]
  rfl

theorem turned_singleton (e : Euler ℝ) (w : Vec3 ℝ) (dt : ℝ) :
    (euler e).turned [(w, dt)] = euler (e.step w dt) := advance_euler e w dt

theorem exists_turned_eq (hroll : |e.roll| ≤ Real.pi) (hyaw : |e.yaw| ≤ Real.pi)
    (turns : List (Vec3 ℝ × ℝ)) :
    ∃ now, (euler e).turned turns = euler now ∧ |now.roll| ≤ Real.pi ∧ |now.yaw| ≤ Real.pi ∧
      |now.pitch - e.pitch| ≤ (turns.map fun turn => turn.1.norm * |turn.2|).sum := by
  -- The last step is taken off, since a step is bounded in terms of the angles it starts from.
  induction turns using List.reverseRecOn with
  | nil => exact ⟨e, rfl, hroll, hyaw, by simp⟩
  | append_singleton turns turn ih =>
    obtain ⟨now, hnow, hroll, hyaw, hpitch⟩ := ih
    obtain ⟨hroll, hyaw⟩ := Euler.abs_step_le hroll hyaw turn.1 turn.2
    refine ⟨now.step turn.1 turn.2, ?_, hroll, hyaw, ?_⟩
    · rw [turned_append, hnow, turned_singleton]
    · have hstep := now.abs_pitch_step_sub_le turn.1 turn.2
      rw [List.map_append, List.sum_append, List.map_singleton, List.sum_singleton, add_comm]
      calc |(now.step turn.1 turn.2).pitch - e.pitch|
          ≤ |(now.step turn.1 turn.2).pitch - now.pitch| + |now.pitch - e.pitch| :=
            abs_sub_le _ _ _
        _ ≤ turn.1.norm * |turn.2| + (turns.map fun turn => turn.1.norm * |turn.2|).sum :=
            add_le_add hstep hpitch

/-- Steps of Euler angles keep roll and yaw within half a turn, and lose nothing by that: each step
leads to the rotation of the angles before they are brought back.  The pitch moves by no more than
the body turns, and all angles are within half a turn exactly when the pitch is. -/
theorem angles_turned (he : e.WithinHalfTurn) (turns : List (Vec3 ℝ × ℝ)) :
    ∃ now, (euler e).turned turns = euler now ∧ |now.roll| ≤ Real.pi ∧ |now.yaw| ≤ Real.pi ∧
      (now.WithinHalfTurn ↔ |now.pitch| ≤ Real.pi) ∧
      |now.pitch - e.pitch| ≤ (turns.map fun turn => turn.1.norm * |turn.2|).sum ∧
      ∀ w dt,
        (∀ rate, now.rateOfTurn? w = some rate →
          ((euler now).advance w dt).rotation = (now.drift rate dt).rotation) ∧
        (now.rateOfTurn? w = none → (euler now).advance w dt = euler now) := by
  obtain ⟨now, hnow, hroll, hyaw, hpitch⟩ := exists_turned_eq he.roll he.yaw turns
  refine ⟨now, hnow, hroll, hyaw, ?_, hpitch, fun w dt => ⟨?_, ?_⟩⟩
  · constructor
    · exact fun h => h.pitch
    · exact fun h => ⟨hroll, h, hyaw⟩
  · intro rate hrate
    rw [advance_euler]
    exact Euler.rotation_step hrate dt
  · intro hnone
    rw [advance_euler, Euler.step, hnone]

/-- A body that has turned by less than half a turn since it was level. -/
theorem angles_turned_level :
    ∃ now, (euler (0 : Euler ℝ)).turned [(⟨1, 2, 2⟩, 1 / 2), (⟨0, -1, 0⟩, 1)] = euler now ∧
      now.WithinHalfTurn := by
  have hlevel : (0 : Euler ℝ).WithinHalfTurn := by
    constructor <;> exact abs_zero.trans_le Real.pi_pos.le
  obtain ⟨now, hnow, -, -, hiff, hpitch, -⟩ :=
    angles_turned hlevel [(⟨1, 2, 2⟩, 1 / 2), (⟨0, -1, 0⟩, 1)]
  have hfirst : (⟨1, 2, 2⟩ : Vec3 ℝ).norm = 3 := by
    rw [Vec3.norm_eq, Real.sqrt_eq_iff_mul_self_eq_of_pos (by norm_num)]
    norm_num [Vec3.dot]
  have hsecond : (⟨0, -1, 0⟩ : Vec3 ℝ).norm = 1 := by norm_num [Vec3.norm_eq, Vec3.dot]
  refine ⟨now, hnow, hiff.2 ?_⟩
  norm_num [hfirst, hsecond] at hpitch
  change |now.pitch - 0| ≤ _ at hpitch
  rw [sub_zero] at hpitch
  linarith [Real.pi_gt_three]

/-! ### Loops -/

/-- The pitch of a body that loops about its right axis is the sum of all its steps. -/
theorem turned_looping {rate dt : ℝ} {n : ℕ}
    (h : ∀ k : ℕ, k < n → ¬ Euler.IsLocked ⟨0, k * (rate * dt), 0⟩) :
    (euler 0).turned (List.replicate n (⟨0, rate, 0⟩, dt)) = euler ⟨0, n * (rate * dt), 0⟩ := by
  induction n with
  | zero =>
    rw [Nat.cast_zero, zero_mul]
    rfl
  | succ n ih =>
    rw [List.replicate_succ', turned_append, ih fun k hk => h k (Nat.lt_succ_of_lt hk),
      turned_singleton, Euler.step_looping (h n (Nat.lt_succ_self n))]
    congr 2
    push_cast
    ring

/-- At one radian per second and a timestep of one millisecond the pitch leaves half a turn after
3142 steps. -/
theorem not_withinHalfTurn_looping :
    let turns : List (Vec3 ℝ × ℝ) := List.replicate 3142 (⟨0, 1, 0⟩, 1 / 1000)
    (0 : Euler ℝ).WithinHalfTurn ∧ (∀ turn ∈ turns, 0 < turn.2) ∧
      ((euler 0).turned turns).angles = ⟨0, 3.142, 0⟩ ∧
      ¬ ((euler 0).turned turns).angles.WithinHalfTurn := by
  intro turns
  have hlevel : (0 : Euler ℝ).WithinHalfTurn := by
    constructor <;> exact abs_zero.trans_le Real.pi_pos.le
  have hlow := Real.pi_gt_d4
  have hhigh := Real.pi_lt_d4
  have hlock : ∀ k : ℕ, k < 3142 → ¬ Euler.IsLocked ⟨0, k * (1 * (1 / 1000)), 0⟩ := by
    intro k hk
    have hk : (k : ℝ) ≤ 3141 := by exact_mod_cast Nat.le_of_lt_succ hk
    have hk0 : (0 : ℝ) ≤ k := Nat.cast_nonneg k
    refine Euler.not_isLocked_of_far (abs_le.2 ⟨by linarith, by linarith⟩) ?_
    -- A quarter turn is between the angles after 1570 and after 1571 steps.
    rcases le_or_gt k 1570 with hbefore | hafter
    · have hbefore : (k : ℝ) ≤ 1570 := by exact_mod_cast hbefore
      exact le_abs.2 (.inl (by linarith))
    · have hafter : (1571 : ℝ) ≤ k := by exact_mod_cast hafter
      exact le_abs.2 (.inr (by linarith))
  have hangles : ((euler 0).turned turns).angles = ⟨0, 3.142, 0⟩ := by
    rw [turned_looping hlock, angles]
    norm_num
  refine ⟨hlevel, ?_, hangles, fun hwithin => ?_⟩
  · intro turn hturn
    rw [List.eq_of_mem_replicate hturn]
    norm_num
  · rw [hangles] at hwithin
    have hle := (abs_le.1 hwithin.pitch).2
    norm_num at hle hhigh
    linarith

end Attitude

end Multirotor
