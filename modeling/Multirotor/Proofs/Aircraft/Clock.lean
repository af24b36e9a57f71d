import Multirotor.Proofs.Aircraft.Bookkeeping
import Multirotor.Proofs.Aircraft.Divisors
import Multirotor.Proofs.Scalar.Whole

/-!
# The clock

An aircraft counts its time twice: in whole microseconds, and in seconds as the product of the
number of ticks and the timestep.  The timestep that is checked is a double, and so is the number
of microseconds that it is rounded from.  As long as that number fits in a word, the two clocks
differ by a millionth of a microsecond for each tick, up to the rounding of the products
(`clock_spec`).

The check has no upper bound.  It takes the distance from the nearest whole number, which for
infinity is not a number and not above any bound, so that an infinite timestep passes and the word
holds the greatest number it can (`not_whole_endless`).
-/

namespace Multirotor

namespace Binary64

open Float.Model

theorem value_million : value 1e6 = 10 ^ 6 :=
  (value_eq 8589934592000000 (-33) (by decide) rfl).trans (by norm_num)

theorem value_millionth_le : value 1e-6 ≤ 1e-6 :=
  (value_eq 4722366482869645 (-72) (by decide) rfl).trans_le (by norm_num)

/-- The first number that is too large for a word. -/
theorem value_words : value 18446744073709551616.0 = 2 ^ 64 :=
  (value_eq (2 ^ 52) 12 (by decide) rfl).trans (by norm_num)

theorem isFinite_or_infinite_of_pos {x : Float} (h : 0 < x) :
    (Scalar.isFinite x = true ∧ 0 < value x) ∨ x.toModel.unpack = .infinity .positive := by
  have hlt := lt_iff.1 h
  rw [unpack_zero] at hlt
  cases hu : x.toModel.unpack with
  | notANumber => rw [hu] at hlt; cases hlt
  | zero s => rw [hu] at hlt; cases hlt
  | infinity s =>
    cases s with
    | negative => rw [hu] at hlt; cases hlt
    | positive => exact .inr rfl
  | finite s m e hm =>
    have hfinite : Scalar.isFinite x = true := by
      change x.toModel.unpack.isFinite = true
      rw [hu]
      rfl
    exact .inl ⟨hfinite, (lt_iff_value rfl hfinite).1 h⟩

/-- A positive number of seconds in microseconds. -/
theorem mul_million {x : Float} (h : 0 < x) :
    (Scalar.isFinite x = true ∧ 0 < value x ∧ Rounds (x * 1e6) (value x * 10 ^ 6)) ∨
      (x * 1e6).toModel.unpack = .infinity .positive := by
  obtain ⟨hfinite, hpos⟩ | hinf := isFinite_or_infinite_of_pos h
  · have hnear := mul_nearest hfinite (y := 1e6) rfl
    rw [value_million] at hnear
    obtain hrounds | ⟨s, hs, hlarge⟩ := rounds_or_infinite (toModel_mul x 1e6) hnear
    · exact .inl ⟨hfinite, hpos, hrounds⟩
    · cases s with
      | positive => exact .inr hs
      | negative =>
        have hneg : (2 : ℝ) ^ 1023 ≤ -(value x * 10 ^ 6) := by rwa [unit, neg_one_mul] at hlarge
        have hpos : 0 < value x * 10 ^ 6 := by positivity
        exact absurd hneg ((neg_lt_zero.2 hpos).trans (pow_pos two_pos 1023)).not_ge
  · refine .inr ?_
    rw [toModel_mul, hinf]
    rfl

end Binary64

open Binary64

/-! ## The timestep -/

namespace Configuration

theorem checkTimeStep_eq_ok {α : Type} [Scalar α] {c : Configuration α}
    (h : c.checkTimeStep = .ok ()) :
    ¬ Scalar.round (c.timeStep * 1e6) < 1 ∧
      ¬ 1e-6 < Scalar.abs (c.timeStep * 1e6 - Scalar.round (c.timeStep * 1e6)) := by
  unfold checkTimeStep at h
  dsimp only at h
  split_ifs at h with hpos hwhole
  exact not_or.1 hwhole

variable {c : Configuration Float} (h : c.checkTimeStep = .ok ())

include h

/-- A finite number of microseconds is rounded to a whole one, and their difference is checked. -/
theorem exists_whole (hfinite : Scalar.isFinite (c.timeStep * 1e6) = true)
    (hpos : 0 ≤ value (c.timeStep * 1e6)) :
    ∃ n : ℕ, 1 ≤ n ∧ |n - value (c.timeStep * 1e6)| ≤ 1e-6 ∧
      c.timeStepMicros.toNat = min n (2 ^ 64 - 1) := by
  obtain ⟨hone, hnear⟩ := checkTimeStep_eq_ok h
  obtain ⟨n, hround, hn, hhalf⟩ := round_spec hfinite hpos
  have hlarge : (1 : ℝ) ≤ n := by
    rw [lt_iff_value hround rfl, hn, not_lt] at hone
    exact value_one.ge.trans hone
  obtain ⟨hsub, hvsub⟩ := value_sub_whole hfinite hround hn
    (hhalf.trans (by rw [abs_of_nonneg hpos]; linarith [neg_le_of_abs_le hhalf]))
    (hhalf.trans (by norm_num))
  refine ⟨n, by exact_mod_cast hlarge, ?_, ?_⟩
  · rw [lt_iff_value rfl ((isFinite_abs _).trans hsub), not_lt, value_abs, hvsub] at hnear
    rw [abs_sub_comm]
    exact hnear.trans value_millionth_le
  · rw [timeStepMicros, microseconds, toNat_toUInt64 hround (by rw [hn]; positivity), hn,
      Nat.floor_natCast]

theorem one_le_timeStepMicros : 1 ≤ c.timeStepMicros.toNat := by
  obtain ⟨-, hpos, hrounds⟩ | hinf := mul_million (timeStep_pos h)
  · obtain ⟨n, hn, -, hmicros⟩ :=
      exists_whole h hrounds.isFinite (hrounds.nearest.nonneg (by positivity))
    omega
  · rw [timeStepMicros, microseconds, round_of_infinite hinf, toNat_toUInt64_of_infinite hinf]
    decide

/-- Up to a word the whole number of microseconds is the one that was checked. -/
theorem abs_timeStepMicros_sub_le (hfits : c.timeStep * 1e6 < 18446744073709551616.0) :
    (0 < value c.timeStep ∧ Scalar.isFinite c.timeStep = true ∧
      Rounds (c.timeStep * 1e6) (value c.timeStep * 10 ^ 6)) ∧
    |c.timeStepMicros.toNat - value (c.timeStep * 1e6)| ≤ 1e-6 := by
  obtain ⟨hfinite, hpos, hrounds⟩ | hinf := mul_million (timeStep_pos h)
  · refine ⟨⟨hpos, hfinite, hrounds⟩, ?_⟩
    obtain ⟨n, -, hnear, hmicros⟩ :=
      exists_whole h hrounds.isFinite (hrounds.nearest.nonneg (by positivity))
    rw [lt_iff_value hrounds.isFinite rfl, value_words] at hfits
    have hlt : n < 2 ^ 64 := by
      have hle := le_of_abs_le hnear
      obtain hsmall | hlarge := lt_or_ge (value (c.timeStep * 1e6)) (2 ^ 52)
      · have : (n : ℝ) < 2 ^ 64 := by linarith
        exact_mod_cast this
      · -- the double is whole here, and so it is the number itself
        obtain ⟨k, hk⟩ := exists_eq_natCast hrounds.isFinite hlarge
        rw [hk] at hle hfits
        have hnk : (n : ℝ) < k + 1 := by linarith
        have hnk : n < k + 1 := by exact_mod_cast hnk
        have hk : k < 2 ^ 64 := by exact_mod_cast hfits
        omega
    rwa [hmicros, min_eq_left (Nat.le_sub_one_of_lt hlt)]
  · rw [lt_iff, hinf] at hfits
    cases hfits

end Configuration

/-! ## Any number of ticks -/

/-- The errors of four products: `x` is the exact time in microseconds and `w` the same ticks of the
rounded timestep; `y`, `z` and `f` are what counting the ticks, the seconds and the microseconds in
doubles makes of it. -/
theorem abs_time_sub_le {n t w x y z f : ℝ} (hnt : n ≤ t) (hw : |w - x| ≤ 2 ^ (-53 : ℤ) * x)
    (hy : |y - x| ≤ 2 ^ (-53 : ℤ) * x) (hz : |z - y| ≤ 2 ^ (-53 : ℤ) * y)
    (hf : |f - z| ≤ 2 ^ (-53 : ℤ) * z) (ht : |t - w| ≤ n * 1e-6) :
    |t - f| ≤ n * 1e-6 + 2 ^ (-50 : ℤ) * t := by
  rw [abs_le] at *
  norm_num at *
  constructor <;> linarith

/-- A number of ordinary size is rounded with a relative error. -/
theorem Binary64.Rounds.relative {z : Float} {x : ℝ} (h : Rounds z x) (hx : 1e-9 ≤ x) :
    |value z - x| ≤ 2 ^ (-53 : ℤ) * x := by
  have habs : |x| = x := abs_of_nonneg ((by norm_num : (0 : ℝ) ≤ 1e-9).trans hx)
  have hnormal : (2 : ℝ) ^ (-1022 : ℤ) ≤ 2 ^ (-30 : ℤ) :=
    zpow_le_zpow_right₀ one_le_two (by norm_num)
  have hle := h.nearest.abs_sub_le
    (by rw [habs]; exact hnormal.trans ((by norm_num : (2 : ℝ) ^ (-30 : ℤ) ≤ 1e-9).trans hx))
  rwa [habs] at hle

theorem Binary64.Rounds.eq_zero {z : Float} (h : Rounds z 0) : value z = 0 :=
  h.nearest.eq_of_grid (n := 0) (k := 0) (by norm_num) (by norm_num) (by norm_num)

/-! ### Relative errors -/

section Relative

variable {x y : ℝ} (h : |y - x| ≤ 2 ^ (-53 : ℤ) * x)

include h

theorem mul_relative {k : ℝ} (hk : 0 ≤ k) : |k * y - k * x| ≤ 2 ^ (-53 : ℤ) * (k * x) := by
  rw [← mul_sub, abs_mul, abs_of_nonneg hk, mul_left_comm]
  exact mul_le_mul_of_nonneg_left h hk

theorem le_two_mul_of_relative (hx : 0 ≤ x) : x ≤ 2 * y ∧ y ≤ 2 * x := by
  have hhalf : 2 ^ (-53 : ℤ) * x ≤ 1 / 2 * x := mul_le_mul_of_nonneg_right (by norm_num) hx
  obtain ⟨hup, hdown⟩ := abs_sub_le_iff.1 (h.trans hhalf)
  constructor <;> linarith

end Relative

theorem abs_lt_of_lt {x : ℝ} (h : 0 ≤ x) (hlt : x < 2 ^ 70) : |x| < 2 ^ 1023 := by
  rw [abs_of_nonneg h]
  exact hlt.trans (pow_lt_pow_right₀ one_lt_two (by norm_num))

section Elapsed

variable {c : Configuration Float} (h : c.checkTimeStep = .ok ())
  (hfits : c.timeStep * 1e6 < 18446744073709551616.0)

include h hfits

/-- The time of fewer ticks than a word counts, in words and in doubles. -/
theorem abs_micros_sub_elapsed_le {n : ℕ} (hn : 1 ≤ n)
    (hlt : n * c.timeStepMicros.toNat < 2 ^ 64) :
    |(n * c.timeStepMicros.toNat : ℝ) - value ((n : Float) * c.timeStep * 1e6)| ≤
      n * 1e-6 + 2 ^ (-50 : ℤ) * (n * c.timeStepMicros.toNat) := by
  obtain ⟨⟨hpos, hfinite, hstep⟩, hnear⟩ := Configuration.abs_timeStepMicros_sub_le h hfits
  have hmicros := Configuration.one_le_timeStepMicros h
  have hcount := rounds_natCast ((Nat.le_mul_of_pos_right n hmicros).trans_lt hlt)
  generalize c.timeStepMicros.toNat = micros at hlt hnear hmicros ⊢
  have hone : (1 : ℝ) ≤ n := by exact_mod_cast hn
  have hmicros : (1 : ℝ) ≤ micros := by exact_mod_cast hmicros
  have hnt : (n : ℝ) ≤ n * micros := le_mul_of_one_le_right (by linarith) hmicros
  have hword : (n * micros : ℝ) < 2 ^ 64 := by exact_mod_cast hlt
  -- the timestep and the number of ticks
  set s := value c.timeStep * 10 ^ 6 with hs
  obtain ⟨hdown, hup⟩ := abs_sub_le_iff.1 hnear
  have hquarter : 1 / 4 ≤ s := by
    have := hstep.nearest.le_two_mul (by linarith)
    linarith
  have hw := mul_relative (hstep.relative (by linarith)) (k := n) (by linarith)
  have hy := mul_relative (hcount.relative (by linarith)) (k := s) (by linarith)
  rw [mul_comm s, mul_comm s] at hy
  have ht : |(n * micros : ℝ) - n * value (c.timeStep * 1e6)| ≤ n * 1e-6 := by
    rw [← mul_sub, abs_mul, Nat.abs_cast]
    exact mul_le_mul_of_nonneg_left hnear (by linarith)
  have hsmall : 1 / 4 ≤ n * s := hquarter.trans (le_mul_of_one_le_left (by linarith) hone)
  have hlarge : n * s ≤ 2 ^ 66 := by
    have hle := (le_two_mul_of_relative hw (by linarith)).1
    have hle' := (abs_sub_le_iff.1 ht).2
    linarith
  -- the seconds, and microseconds again
  obtain ⟨hy1, hy2⟩ := le_two_mul_of_relative hy (by linarith)
  have hproduct : value (n : Float) * value c.timeStep = value (n : Float) * s / 10 ^ 6 := by
    rw [hs]
    ring
  have hseconds := rounds_mul hcount.isFinite hfinite (by
    rw [hproduct]
    exact abs_lt_of_lt (by linarith) (by linarith))
  rw [hproduct] at hseconds
  have hz := mul_relative (hseconds.relative (by linarith)) (k := 10 ^ 6) (by norm_num)
  rw [mul_div_cancel₀ _ (by norm_num)] at hz
  obtain ⟨hz1, hz2⟩ := le_two_mul_of_relative hz (by linarith)
  have hmillion : value ((n : Float) * c.timeStep) * value 1e6 =
      10 ^ 6 * value ((n : Float) * c.timeStep) := by
    rw [value_million, mul_comm]
  have hmicros := rounds_mul hseconds.isFinite (y := 1e6) rfl (by
    rw [hmillion]
    exact abs_lt_of_lt (by linarith) (by linarith))
  rw [hmillion] at hmicros
  exact abs_time_sub_le hnt hw hy hz (hmicros.relative (by linarith)) ht

end Elapsed

namespace Aircraft

theorem value_elapsed_zero {x : Float} (hx : Scalar.isFinite x = true) :
    value (((0 : ℕ) : Float) * x * 1e6) = 0 := by
  have hcount := rounds_natCast (n := 0) (by norm_num)
  rw [Nat.cast_zero] at hcount
  have hzero : value ((0 : ℕ) : Float) * value x = 0 := by rw [hcount.eq_zero, zero_mul]
  have hseconds := rounds_mul hcount.isFinite hx (by rw [hzero, abs_zero]; positivity)
  rw [hzero] at hseconds
  have hzero : value (((0 : ℕ) : Float) * x) * value 1e6 = 0 := by rw [hseconds.eq_zero, zero_mul]
  have hmicros := rounds_mul hseconds.isFinite (y := 1e6) rfl
    (by rw [hzero, abs_zero]; positivity)
  rw [hzero] at hmicros
  exact hmicros.eq_zero

/-- An aircraft that is checked has a timestep of a microsecond at least, and of the number of
microseconds that it was rounded from, up to a millionth, if that number fits in a word.  Whatever
was done to the aircraft, its two clocks then differ by a millionth of a microsecond for each tick
since it was built or last reset, as long as the word has not overflowed. -/
theorem clock_spec {c : Configuration Float} (h : c.check = .ok ()) :
    1 ≤ c.timeStepMicros.toNat ∧
    (c.timeStep * 1e6 < 18446744073709551616.0 →
      |c.timeStepMicros.toNat - value (c.timeStep * 1e6)| ≤ 1e-6 ∧
      ∀ r built events, build c r = .ok (built, events) → ∀ ops,
        let a := built.after ops
        let n := (ops.foldl (Operation.log c.rotorCount.toNat) []).length
        n * c.timeStepMicros.toNat < 2 ^ 64 →
          |a.time.toNat - n * value (c.timeStep * 1e6)| ≤ n * 1e-6 ∧
          |a.time.toNat - value (a.elapsed * 1e6)| ≤ n * 1e-6 + 2 ^ (-50 : ℤ) * a.time.toNat) := by
  have hstep := (Configuration.check_eq_ok.1 h).1
  refine ⟨Configuration.one_le_timeStepMicros hstep, fun hfits => ?_⟩
  obtain ⟨⟨-, hfinite, -⟩, hnear⟩ := Configuration.abs_timeStepMicros_sub_le hstep hfits
  refine ⟨hnear, fun r built events hbuild ops => ?_⟩
  intro a n hlt
  have hasm := assembly_of_build hbuild
  have hb : a.BuiltFrom c r := (builtFrom_of_build hbuild).after hasm.aligned ops
  have hcounts := counts_after hasm.aligned hasm.counts ops
  rw [hasm.rotorCount] at hcounts
  have htime : a.time.toNat = n * c.timeStepMicros.toNat := by
    rw [hcounts.toNat_time, hb.dtMicros, Nat.mod_eq_of_lt hlt]
  have hticks : a.ticks.toNat = n := by
    rw [hcounts.ticks, UInt64.toNat_ofNat', Nat.mod_eq_of_lt]
    exact (Nat.le_mul_of_pos_right n (Configuration.one_le_timeStepMicros hstep)).trans_lt hlt
  rw [htime, elapsed, hticks, hb.config, Nat.cast_mul]
  constructor
  · rw [← mul_sub, abs_mul, Nat.abs_cast]
    exact mul_le_mul_of_nonneg_left hnear n.cast_nonneg
  · obtain hzero | hpos := n.eq_zero_or_pos
    · rw [hzero, Nat.cast_zero, value_elapsed_zero hfinite]
      norm_num
    · exact abs_micros_sub_elapsed_le hstep hfits hpos hlt

/-- A tick with nothing given. -/
def emptyTick : Operation Float := .run { time := 0, useWeather := false, trace := false } .none

theorem check_standard_binary64 :
    (Configuration.standard : Configuration Float).check = .ok () := by
  decide +kernel

/-- One tick of the standard aircraft after a reset takes a thousand microseconds. -/
theorem clock_spec_standard : ∃ built events,
    (build Configuration.standard (.boxMuller fun _ _ => 0) : Except (Fault Float) _) =
        .ok (built, events) ∧
      (Configuration.standard : Configuration Float).timeStepMicros.toNat = 1000 ∧
      |1000 - value ((Configuration.standard : Configuration Float).timeStep * 1e6)| ≤ 1e-6 ∧
      |(built.after [emptyTick, .reset, emptyTick]).time.toNat -
        value ((built.after [emptyTick, .reset, emptyTick]).elapsed * 1e6)| ≤
          (1 : ℕ) * 1e-6 + 2 ^ (-50 : ℤ) *
            (built.after [emptyTick, .reset, emptyTick]).time.toNat := by
  obtain ⟨⟨built, events⟩, hbuild⟩ :=
    exists_build_of_matches (c := Configuration.standard) (r := .boxMuller fun _ _ => 0)
      (by decide +kernel)
  have hmicros : (Configuration.standard : Configuration Float).timeStepMicros.toNat = 1000 := by
    decide +kernel
  obtain ⟨-, hspec⟩ := clock_spec check_standard_binary64
  obtain ⟨hnear, hclock⟩ := hspec (by decide +kernel)
  rw [hmicros] at hnear hclock
  exact ⟨built, events, hbuild, hmicros, hnear,
    (hclock _ built events hbuild [emptyTick, .reset, emptyTick] (by decide)).2⟩

/-- The standard aircraft with an infinite timestep. -/
def endless : Configuration Float := { Configuration.standard with timeStep := infinity }

/-- An infinite timestep passes the check. -/
theorem not_whole_endless : endless.check = .ok () ∧ endless.timeStepMicros.toNat = 2 ^ 64 - 1 ∧
    ¬ Scalar.abs ((endless.timeStepMicros.toNat : Float) - endless.timeStep * 1e6) ≤ 1e-6 := by
  decide +kernel

end Aircraft

end Multirotor
