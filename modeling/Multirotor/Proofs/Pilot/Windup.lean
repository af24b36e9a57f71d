import Multirotor.Proofs.Pilot.History
import Multirotor.Proofs.Pilot.Loop

/-!
# Integrals of a saturated loop

While the output is saturated, an error may move the integral of a loop only against its sign.  This
keeps an error of the same sign from winding it up, but an error of the other sign is added whole,
and a large one carries the integral through zero (`Pid.Overshoots`).
`Pid.grows_saturated_iff` says for a loop with any history when the integral is then larger than
before, and how large it is.
-/

namespace Multirotor

open Scalar

namespace Pid

/-! ## The bound on the integral -/

/-- The loop does not integrate against its errors, and its integral is within the bound. -/
structure Bounded (p : Pid ℝ) : Prop where
  gain_nonneg : 0 ≤ p.gains.integral
  dt_pos : 0 < p.dt
  integrator_le : |p.integrator| ≤ p.gains.integralMax
  idle : p.gains.integral = 0 → p.integrator = 0

variable {p : Pid ℝ}

theorem bounded_start {gains : PidGains ℝ} {dt : ℝ} (hgain : 0 ≤ gains.integral)
    (hmax : 0 ≤ gains.integralMax) (hdt : 0 < dt) : (start gains dt).Bounded :=
  ⟨hgain, hdt, by rw [start, abs_zero]; exact hmax, fun _ => rfl⟩

theorem Bounded.observe (h : p.Bounded) (error : ℝ) : (p.observe error).Bounded :=
  ⟨h.gain_nonneg, h.dt_pos, h.integrator_le, h.idle⟩

theorem Bounded.integralMax_nonneg (h : p.Bounded) : 0 ≤ p.gains.integralMax :=
  (abs_nonneg _).trans h.integrator_le

theorem nextIntegrator_of_no_gain (hgain : p.gains.integral = 0) (saturated : Bool) :
    p.nextIntegrator saturated = 0 := by
  rw [nextIntegrator, if_neg]
  intro hactive
  exact bne_iff_ne.1 hactive.1 hgain

theorem Bounded.abs_nextIntegrator (h : p.Bounded) (hgain : p.gains.integral ≠ 0)
    {saturated : Bool} (hmay : p.mayIntegrate saturated) :
    |p.nextIntegrator saturated| =
      min |p.integrator + p.error * p.gains.integral * p.dt| p.gains.integralMax := by
  rw [nextIntegrator, if_pos ⟨bne_iff_ne.2 hgain, h.dt_pos⟩, if_pos hmay]
  dsimp only
  rw [larger_real, smaller_real, abs_min_max_neg _ h.integralMax_nonneg]

theorem Bounded.nextIntegrator_of_not_may (h : p.Bounded) (hgain : p.gains.integral ≠ 0)
    {saturated : Bool} (hmay : ¬ p.mayIntegrate saturated) :
    p.nextIntegrator saturated = p.integrator := by
  rw [nextIntegrator, if_pos ⟨bne_iff_ne.2 hgain, h.dt_pos⟩, if_neg hmay]

theorem Bounded.integrate (h : p.Bounded) (saturated : Bool) : (p.integrate saturated).Bounded :=
  ⟨h.gain_nonneg, h.dt_pos, abs_nextIntegrator_le h.integrator_le saturated,
    fun hgain => nextIntegrator_of_no_gain (p := p) hgain saturated⟩

theorem Bounded.perform (h : p.Bounded) (op : PidOperation ℝ) : (p.perform op).Bounded := by
  cases op with
  | update target measurement saturated =>
    have hnext := (h.observe (target - measurement)).integrate saturated
    exact ⟨hnext.gain_nonneg, hnext.dt_pos, hnext.integrator_le, hnext.idle⟩
  | integrate saturated => exact h.integrate saturated
  | reset => exact bounded_start h.gain_nonneg h.integralMax_nonneg h.dt_pos

theorem Bounded.after (h : p.Bounded) (ops : List (PidOperation ℝ)) : (p.after ops).Bounded := by
  induction ops generalizing p with
  | nil => exact h
  | cons op ops ih => exact ih (h.perform op)

/-! ## Saturated steps -/

/-- An error against the sign of the integral, for which zero counts as positive. -/
def Opposes (p : Pid ℝ) (error : ℝ) : Prop :=
  0 ≤ p.integrator ∧ error < 0 ∨ p.integrator < 0 ∧ 0 ≤ error

/-- An error that carries the integral through zero and further away than it was. -/
structure Overshoots (p : Pid ℝ) (error : ℝ) : Prop where
  opposes : p.Opposes error
  far : 2 * |p.integrator| < |error| * p.gains.integral * p.dt
  room : |p.integrator| < p.gains.integralMax

/-- What a saturated step with an error makes of the integral. -/
structure Unwinds (p : Pid ℝ) (error next : ℝ) : Prop where
  held : ¬ p.Opposes error → next = p.integrator
  grows_iff : |p.integrator| < |next| ↔ p.Overshoots error
  overshot : p.Overshoots error →
    |next| = min (|error| * p.gains.integral * p.dt - |p.integrator|) p.gains.integralMax

theorem Unwinds.of_eq {error next : ℝ} (hnot : ¬ p.Overshoots error) (heq : next = p.integrator) :
    p.Unwinds error next where
  held _ := heq
  grows_iff := iff_of_false (by rw [heq]; exact lt_irrefl _) hnot
  overshot hover := absurd hover hnot

theorem abs_add_of_opposed {x y : ℝ} (h : 0 ≤ x ∧ y ≤ 0 ∨ x ≤ 0 ∧ 0 ≤ y) :
    |x + y| = |(|y| - |x|)| := by
  rcases h with ⟨hx, hy⟩ | ⟨hx, hy⟩
  · rw [abs_of_nonneg hx, abs_of_nonpos hy, ← neg_add', abs_neg, add_comm]
  · rw [abs_of_nonpos hx, abs_of_nonneg hy, sub_neg_eq_add, add_comm]

theorem lt_abs_sub_iff {x y : ℝ} (hy : 0 ≤ y) : x < |y - x| ↔ 2 * x < y := by
  rw [lt_abs]
  constructor
  · rintro (h | h) <;> linarith
  · intro h
    exact .inl (by linarith)

theorem Bounded.unwinds_of_opposes (h : p.Bounded) (hgain : p.gains.integral ≠ 0)
    (hopposes : p.Opposes p.error) : p.Unwinds p.error (p.nextIntegrator true) := by
  have hrate : 0 ≤ p.gains.integral * p.dt := mul_nonneg h.gain_nonneg h.dt_pos.le
  have hsize : |p.error * p.gains.integral * p.dt| = |p.error| * p.gains.integral * p.dt := by
    rw [mul_assoc, abs_mul, abs_of_nonneg hrate, mul_assoc]
  have hnonneg : 0 ≤ |p.error| * p.gains.integral * p.dt := hsize ▸ abs_nonneg _
  have hsigns : 0 ≤ p.integrator ∧ p.error * p.gains.integral * p.dt ≤ 0 ∨
      p.integrator ≤ 0 ∧ 0 ≤ p.error * p.gains.integral * p.dt := by
    rw [mul_assoc]
    rcases hopposes with ⟨hi, he⟩ | ⟨hi, he⟩
    · exact .inl ⟨hi, mul_nonpos_of_nonpos_of_nonneg he.le hrate⟩
    · exact .inr ⟨hi.le, mul_nonneg he hrate⟩
  have hnext : |p.nextIntegrator true| =
      min |(|p.error| * p.gains.integral * p.dt - |p.integrator|)| p.gains.integralMax := by
    rw [h.abs_nextIntegrator hgain (.inr hopposes), abs_add_of_opposed hsigns, hsize]
  refine ⟨fun hsame => absurd hopposes hsame, ?_, ?_⟩
  · rw [hnext, lt_min_iff, lt_abs_sub_iff hnonneg]
    exact ⟨fun hgrows => ⟨hopposes, hgrows.1, hgrows.2⟩, fun hover => ⟨hover.far, hover.room⟩⟩
  · intro hover
    have hpast : 0 ≤ |p.error| * p.gains.integral * p.dt - |p.integrator| := by
      linarith [hover.far, abs_nonneg p.integrator]
    rw [hnext, abs_of_nonneg hpast]

theorem Bounded.unwinds (h : p.Bounded) : p.Unwinds p.error (p.nextIntegrator true) := by
  by_cases hgain : p.gains.integral = 0
  · refine .of_eq ?_ (by rw [nextIntegrator_of_no_gain hgain, h.idle hgain])
    intro hover
    have hfar := hover.far
    rw [hgain, mul_zero, zero_mul] at hfar
    linarith [abs_nonneg p.integrator]
  · by_cases hopposes : p.Opposes p.error
    · exact h.unwinds_of_opposes hgain hopposes
    · have hmay : ¬ p.mayIntegrate true := by
        intro hmay
        exact hopposes (hmay.resolve_left (by decide))
      exact .of_eq (fun hover => hopposes hover.opposes) (h.nextIntegrator_of_not_may hgain hmay)

/-- A saturated step of a loop with any history leaves the integral where it is unless its error is
against the sign of the integral, and makes it larger exactly if this error would move it by more
than twice its size and the bound leaves room. -/
theorem grows_saturated_iff {gains : PidGains ℝ} {dt : ℝ} (hgain : 0 ≤ gains.integral)
    (hmax : 0 ≤ gains.integralMax) (hdt : 0 < dt) (ops : List (PidOperation ℝ)) :
    let p := (start gains dt).after ops
    p.gains = gains ∧ p.dt = dt ∧ p.Unwinds p.error (p.integrate true).integrator ∧
      ∀ target measurement, p.Unwinds (target - measurement)
        (p.update target measurement true).2.integrator := by
  intro p
  obtain ⟨hgains, hlength⟩ := (start gains dt).settings_after ops
  have hbounded : p.Bounded := (bounded_start hgain hmax hdt).after ops
  refine ⟨hgains, hlength, hbounded.unwinds, fun target measurement => ?_⟩
  -- An update changes the error and the slope before it integrates, and nothing that counts here.
  have hunwinds := (hbounded.observe (target - measurement)).unwinds
  have hover : (p.observe (target - measurement)).Overshoots (target - measurement) ↔
      p.Overshoots (target - measurement) :=
    ⟨fun h => ⟨h.opposes, h.far, h.room⟩, fun h => ⟨h.opposes, h.far, h.room⟩⟩
  exact ⟨hunwinds.held, hunwinds.grows_iff.trans hover, fun h => hunwinds.overshot (hover.2 h)⟩

/-! ### Errors that are too large -/

/-- Nothing but an integral, with a wide bound. -/
noncomputable def integrating : PidGains ℝ :=
  { PidGains.onlyProportional 0 with integral := 1, integralMax := 10 }

/-- The integral of one error is reversed by a larger one of the other sign, saturated or not. -/
theorem grows_saturated_reversed :
    let p := (start integrating (1 / 10)).after [.update 1 0 false]
    0 ≤ integrating.integral ∧ 0 ≤ integrating.integralMax ∧ p.integrator = 1 / 10 ∧
      |p.integrator| < |(p.update (-10) 0 true).2.integrator| ∧
      |(p.update (-10) 0 true).2.integrator| = 9 / 10 := by
  intro p
  have hgain : (0 : ℝ) ≤ integrating.integral := zero_le_one
  have hmax : (0 : ℝ) ≤ integrating.integralMax := by norm_num [integrating]
  have hdt : (0 : ℝ) < 1 / 10 := by norm_num
  obtain ⟨hpgains, hpdt, -, hupdate⟩ := grows_saturated_iff hgain hmax hdt [.update 1 0 false]
  change p.gains = integrating at hpgains
  change p.dt = 1 / 10 at hpdt
  have hp : p.integrator = 1 / 10 := by
    norm_num [p, after, perform, update, observe, Pid.integrate, nextIntegrator, mayIntegrate,
      start, integrating]
  have hover : p.Overshoots (-10 - 0) := by
    refine ⟨.inl ⟨by rw [hp]; norm_num, by norm_num⟩, ?_, ?_⟩
    · rw [hp, hpgains, hpdt]
      norm_num [integrating]
    · rw [hp, hpgains]
      norm_num [integrating]
  have hunwinds := hupdate (-10) 0
  refine ⟨hgain, hmax, hp, hunwinds.grows_iff.2 hover, ?_⟩
  refine (hunwinds.overshot hover).trans ?_
  show min (|-10 - 0| * p.gains.integral * p.dt - |p.integrator|) p.gains.integralMax = _
  rw [hp, hpgains, hpdt]
  norm_num [integrating]

/-- At zero a saturated step takes a negative error in as if it were not saturated. -/
theorem grows_saturated_from_zero :
    let p := start integrating (1 / 10)
    (p.update (-1) 0 true).2.integrator = -(1 / 10) ∧
      |p.integrator| < |(p.update (-1) 0 true).2.integrator| := by
  intro p
  have hnext : (p.update (-1) 0 true).2.integrator = -(1 / 10) := by
    norm_num [p, update, observe, Pid.integrate, nextIntegrator, mayIntegrate, start,
      integrating]
  rw [hnext]
  refine ⟨rfl, ?_⟩
  norm_num [p, start]

end Pid

end Multirotor
