import Multirotor.Proofs.Space.Standstill

/-!
# Rates of the angles and turns of the body

`Euler.rateOfTurn?` leads from the angular velocity of the body to the derivatives of the angles and
`Euler.turnOfRate` leads back.  A turn determines the derivatives wherever the cosine of the pitch is
not zero, negative or not (`Euler.turnOfRate_injective`): its components along right and down are the
pitch rate and the foreshortened yaw rate, turned by the roll.  Hence the two maps are inverse to each
other wherever the first one is defined (`Euler.rateOfTurn?_eq_some_iff`).
-/

namespace Multirotor

namespace Euler

variable {e rate : Euler ℝ} {w : Vec3 ℝ}

theorem rateOfTurn?_eq_none_iff : e.rateOfTurn? w = none ↔ e.IsLocked := by
  refine ⟨fun h => ?_, fun h => h.rateOfTurn? w⟩
  by_contra hfree
  obtain ⟨rate, hrate, -⟩ := exists_rateOfTurn (not_lt.1 hfree) w
  exact Option.some_ne_none rate (hrate.symm.trans h)

/-- Angles that change at different rates turn the body differently. -/
theorem turnOfRate_injective (h : Real.cos e.pitch ≠ 0) : Function.Injective e.turnOfRate := by
  intro r r' hturn
  have hx := congrArg Vec3.x hturn
  have hy := congrArg Vec3.y hturn
  have hz := congrArg Vec3.z hturn
  simp only [turnOfRate, Scalar.sin_real, Scalar.cos_real] at hx hy hz
  have hroll := Real.sin_sq_add_cos_sq e.roll
  -- Right and down are turned back by the roll.
  have hpitch : r.pitch = r'.pitch := by
    linear_combination Real.cos e.roll * hy - Real.sin e.roll * hz + (r'.pitch - r.pitch) * hroll
  have hshort : Real.cos e.pitch * r.yaw = Real.cos e.pitch * r'.yaw := by
    linear_combination Real.sin e.roll * hy + Real.cos e.roll * hz +
      Real.cos e.pitch * (r'.yaw - r.yaw) * hroll
  have hyaw : r.yaw = r'.yaw := mul_left_cancel₀ h hshort
  have hforward : r.roll = r'.roll := by
    linear_combination hx + Real.sin e.pitch * hyaw
  cases r
  cases r'
  rw [Euler.mk.injEq]
  exact ⟨hforward, hpitch, hyaw⟩

theorem rateOfTurn?_eq_some_iff :
    e.rateOfTurn? w = some rate ↔ ¬ e.IsLocked ∧ e.turnOfRate rate = w := by
  constructor
  · intro h
    have hfree : ¬ e.IsLocked := fun hlock => by simp [hlock.rateOfTurn? w] at h
    obtain ⟨rate', hrate, hturn⟩ := exists_rateOfTurn (not_lt.1 hfree) w
    obtain rfl := Option.some.inj (hrate.symm.trans h)
    exact ⟨hfree, hturn⟩
  · rintro ⟨hfree, rfl⟩
    obtain ⟨rate', hrate, hturn⟩ := exists_rateOfTurn (not_lt.1 hfree) (e.turnOfRate rate)
    rw [hrate, turnOfRate_injective (cos_pitch_ne_zero hfree) hturn]

/-- The derivatives of the angles exist unless the cosine of the pitch is tiny.  Where they exist,
each of the two maps undoes the other, and different turns give different derivatives. -/
theorem rates_inverse (e : Euler ℝ) :
    (∀ w, e.rateOfTurn? w = none ↔ |Real.cos e.pitch| < (2 ^ 52)⁻¹) ∧
    (¬ |Real.cos e.pitch| < (2 ^ 52)⁻¹ →
      (∀ w, ∃ rate, e.rateOfTurn? w = some rate ∧ e.turnOfRate rate = w) ∧
      ∀ rate, e.rateOfTurn? (e.turnOfRate rate) = some rate) ∧
    Set.InjOn e.rateOfTurn? {w | e.rateOfTurn? w ≠ none} := by
  rw [← Scalar.epsilon_real]
  refine ⟨fun w => rateOfTurn?_eq_none_iff, fun hfree => ⟨?_, ?_⟩, ?_⟩
  · exact exists_rateOfTurn (not_lt.1 hfree)
  · exact fun rate => rateOfTurn?_eq_some_iff.2 ⟨hfree, rfl⟩
  · intro w hw w' hw' h
    obtain ⟨rate, hrate⟩ := Option.ne_none_iff_exists'.1 hw
    have hturn := (rateOfTurn?_eq_some_iff.1 hrate).2
    have hturn' := (rateOfTurn?_eq_some_iff.1 (h.symm.trans hrate)).2
    exact hturn.symm.trans hturn'

/-- Angles beyond the vertical, where the cosine of the pitch is negative, and angles on it. -/
theorem rates_inverse_overturned :
    let beyond : Euler ℝ := { roll := 0.3, pitch := Real.pi - Real.pi / 3, yaw := 1.2 }
    let upright : Euler ℝ := { roll := 0, pitch := Real.pi / 2, yaw := 0 }
    ¬ |Real.cos beyond.pitch| < (2 ^ 52)⁻¹ ∧
      (∃ rate, beyond.rateOfTurn? ⟨0.5, -1, 0.25⟩ = some rate ∧
        beyond.turnOfRate rate = ⟨0.5, -1, 0.25⟩) ∧
      beyond.rateOfTurn? (beyond.turnOfRate ⟨1, 2, -3⟩) = some ⟨1, 2, -3⟩ ∧
      upright.rateOfTurn? ⟨0, 0, 1⟩ = none := by
  intro beyond upright
  have hbeyond : ¬ |Real.cos beyond.pitch| < (2 ^ 52)⁻¹ := by
    rw [Real.cos_pi_sub, Real.cos_pi_div_three]
    norm_num
  have hupright : |Real.cos upright.pitch| < (2 ^ 52)⁻¹ := by
    rw [Real.cos_pi_div_two]
    norm_num
  obtain ⟨hback, hforth⟩ := (rates_inverse beyond).2.1 hbeyond
  exact ⟨hbeyond, hback _, hforth _, ((rates_inverse upright).1 _).2 hupright⟩

end Euler

end Multirotor
