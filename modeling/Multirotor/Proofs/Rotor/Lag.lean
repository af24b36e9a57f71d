import Mathlib.Analysis.Convex.Basic
import Multirotor.Proofs.Aircraft.Divisors
import Multirotor.Proofs.Mixing.Steady

/-!
# Rotors with a lag

A tick takes the speed of a rotor with a lag by the fraction `dt / timeConstant` of the way to the
speed that its duty asks for (`Rotor.Lags.speed_step`).  A fraction of at most one leads to a speed
in between, so the speeds from rest to full duty are never left (`Rotor.Lags.speed_after_mem`); a
greater one overshoots in the first tick under full duty.  `Rotor.speed_after_mem_iff` puts both
together with the exponential approach under a constant duty and with the greatest thrust.
-/

namespace Multirotor

open Scalar

namespace Rotor

/-- The rotor after a tick at each of the duties. -/
def after {α : Type} [Scalar α] (r : Rotor α) (duties : List α) : Rotor α := duties.foldl run r

/-- The rotor follows its duty with a lag and is run at the given timestep. -/
structure Lags (r : Rotor ℝ) (maxSpeed timeConstant dt : ℝ) : Prop where
  drive : r.drive = .lag (maxSpeed / timeConstant) timeConstant
  dt : r.dt = dt

variable {r : Rotor ℝ} {maxSpeed timeConstant dt : ℝ}

namespace Lags

variable (h : r.Lags maxSpeed timeConstant dt)

include h

theorem run (duty : ℝ) : (r.run duty).Lags maxSpeed timeConstant dt := ⟨h.drive, h.dt⟩

/-! ## One tick -/

theorem speed_step (duty : ℝ) (voltage : Option ℝ) : (r.step duty voltage).spin.speed =
    max (r.spin.speed + dt / timeConstant * (clamp duty 0 1 * maxSpeed - r.spin.speed)) 0 := by
  simp only [step, respond, h.drive, lagAcceleration, larger_real, h.dt]
  congr 1
  ring

/-- A tick that is not longer than the time constant leads to a speed in between. -/
theorem speed_step_mem (hmax : 0 ≤ maxSpeed) (hfraction : dt / timeConstant ∈ Set.Icc 0 1)
    (hspeed : r.spin.speed ∈ Set.Icc 0 maxSpeed) (duty : ℝ) (voltage : Option ℝ) :
    (r.step duty voltage).spin.speed =
        r.spin.speed + dt / timeConstant * (clamp duty 0 1 * maxSpeed - r.spin.speed) ∧
      (r.step duty voltage).spin.speed ∈ Set.Icc 0 maxSpeed := by
  have hduty := clamp_mem duty zero_le_one
  have hgoal : clamp duty 0 1 * maxSpeed ∈ Set.Icc 0 maxSpeed :=
    ⟨mul_nonneg hduty.1 hmax, mul_le_of_le_one_left hmax hduty.2⟩
  have hbetween := (convex_Icc 0 maxSpeed).add_smul_sub_mem hspeed hgoal hfraction
  rw [smul_eq_mul] at hbetween
  rw [h.speed_step, max_eq_left hbetween.1]
  exact ⟨rfl, hbetween⟩

/-! ## Any number of ticks -/

theorem speed_after_mem (hmax : 0 ≤ maxSpeed) (hfraction : dt / timeConstant ∈ Set.Icc 0 1)
    (hspeed : r.spin.speed ∈ Set.Icc 0 maxSpeed) (duties : List ℝ) :
    (r.after duties).spin.speed ∈ Set.Icc 0 maxSpeed := by
  induction duties generalizing r with
  | nil => exact hspeed
  | cons duty duties ih =>
    exact ih (h.run duty) (h.speed_step_mem hmax hfraction hspeed duty none).2

/-- Under a constant duty the distance to the speed that it asks for shrinks by the same factor in
every tick. -/
theorem speed_after_replicate (hmax : 0 ≤ maxSpeed) (hfraction : dt / timeConstant ∈ Set.Icc 0 1)
    (hspeed : r.spin.speed ∈ Set.Icc 0 maxSpeed) {duty : ℝ} (hduty : duty ∈ Set.Icc 0 1) (n : ℕ) :
    (r.after (List.replicate n duty)).spin.speed =
      duty * maxSpeed - (duty * maxSpeed - r.spin.speed) * (1 - dt / timeConstant) ^ n := by
  induction n generalizing r with
  | zero =>
    rw [List.replicate_zero, pow_zero, mul_one, sub_sub_cancel]
    rfl
  | succ n ih =>
    obtain ⟨hnext, hmem⟩ := h.speed_step_mem hmax hfraction hspeed duty none
    rw [clamp_of_mem _ hduty.1 hduty.2] at hnext
    calc (r.after (List.replicate (n + 1) duty)).spin.speed
        = ((r.run duty).after (List.replicate n duty)).spin.speed := rfl
      _ = duty * maxSpeed -
            (duty * maxSpeed - (r.run duty).spin.speed) * (1 - dt / timeConstant) ^ n :=
          ih (h.run duty) hmem
      _ = duty * maxSpeed -
            (duty * maxSpeed - r.spin.speed) * (1 - dt / timeConstant) ^ (n + 1) := by
          rw [Rotor.run, hnext]
          ring

/-- A tick that is longer than the time constant overshoots full duty. -/
theorem lt_speed_run_one (hmax : 0 < maxSpeed) (hfraction : 1 < dt / timeConstant)
    (hspeed : r.spin.speed = 0) : maxSpeed < (r.run 1).spin.speed := by
  rw [Rotor.run, h.speed_step, clamp_of_mem _ zero_le_one le_rfl, hspeed]
  refine lt_max_of_lt_left ?_
  rw [zero_add, one_mul, sub_zero]
  exact (lt_mul_iff_one_lt_left hmax).2 hfraction

end Lags

/-! ## The thrust of several rotors -/

theorem bodyThrust_le {coefficient maxSpeed : ℝ} (hcoefficient : 0 ≤ coefficient)
    {speeds : List ℝ} (hspeeds : ∀ s ∈ speeds, s ∈ Set.Icc 0 maxSpeed) :
    bodyThrust coefficient speeds 1 ≤ speeds.length * coefficient * maxSpeed ^ 2 := by
  induction speeds with
  | nil => simp [bodyThrust, totalThrust]
  | cons s speeds ih =>
    obtain ⟨hs, hrest⟩ := List.forall_mem_cons.1 hspeeds
    have hthrust : bladeThrust coefficient s 1 ≤ coefficient * maxSpeed ^ 2 := by
      have hsquare := mul_le_mul_of_nonneg_left (pow_le_pow_left₀ hs.1 hs.2 2) hcoefficient
      rw [bladeThrust]
      linarith
    calc bodyThrust coefficient (s :: speeds) 1
        = bladeThrust coefficient s 1 + bodyThrust coefficient speeds 1 := totalThrust_cons _ _
      _ ≤ coefficient * maxSpeed ^ 2 + speeds.length * coefficient * maxSpeed ^ 2 :=
          add_le_add hthrust (ih hrest)
      _ = (s :: speeds).length * coefficient * maxSpeed ^ 2 := by
          rw [List.length_cons]
          push_cast
          ring

/-! ## Rotors as they are built -/

theorem lags_of_lag {c : RotorConstants ℝ} (h : lag c maxSpeed timeConstant dt = .ok r) :
    r.Lags maxSpeed timeConstant dt := by
  obtain ⟨-, -, rfl⟩ := lag_eq_ok h
  exact ⟨rfl, rfl⟩

/-- The greatest thrust of a configuration is that of its rotors at full speed. -/
theorem maxThrust_of_buildRotor {c : RotorConstants ℝ}
    (h : lag c maxSpeed timeConstant dt = .ok r) {config : Configuration ℝ}
    (hr : Aircraft.buildRotor config = .ok r) :
    config.maxThrust = config.rotorCount.toNat * c.thrustCoefficient * maxSpeed ^ 2 := by
  obtain ⟨-, -, hlag⟩ := lag_eq_ok h
  obtain ⟨drive, hconfig⟩ := Aircraft.buildRotor_eq_ok hr
  have hconstants : config.rotor = c := congrArg (·.constants) (hconfig.symm.trans hlag)
  have hspeed : config.maxRotorSpeed = maxSpeed := congrArg (·.maxSpeed) (hconfig.symm.trans hlag)
  rw [Configuration.maxThrust, hconstants, hspeed]
  ring

/-- From rest, a rotor with a lag keeps within its range of speeds under all duties exactly when
the timestep is not longer than the time constant.  Then it approaches the speed that a constant
duty asks for exponentially, and rotors of this kind never pull with more than the thrust of all of
them at full speed. -/
theorem speed_after_mem_iff {c : RotorConstants ℝ} (h : lag c maxSpeed timeConstant dt = .ok r)
    (hmax : 0 < maxSpeed) (hdt : 0 < dt) :
    ((∀ duties, (r.after duties).spin.speed ∈ Set.Icc 0 maxSpeed) ↔ dt ≤ timeConstant) ∧
      (dt ≤ timeConstant →
        (∀ duty ∈ Set.Icc (0 : ℝ) 1, ∀ n : ℕ, (r.after (List.replicate n duty)).spin.speed =
          duty * maxSpeed * (1 - (1 - dt / timeConstant) ^ n)) ∧
        ∀ (p : Propulsion ℝ) (histories : List (List ℝ)), p.constants = c →
          (p.run (histories.map fun duties => (r.after duties).spin) 1).wrench.thrust ≤
            histories.length * c.thrustCoefficient * maxSpeed ^ 2) ∧
      ∀ config : Configuration ℝ, Aircraft.buildRotor config = .ok r →
        config.maxThrust = config.rotorCount.toNat * c.thrustCoefficient * maxSpeed ^ 2 := by
  have hlags := lags_of_lag h
  obtain ⟨hcheck, hpositive, hbuilt⟩ := lag_eq_ok h
  have hrest : r.spin.speed = 0 := congrArg (·.spin.speed) hbuilt
  have hspeed : r.spin.speed ∈ Set.Icc 0 maxSpeed := by
    rw [hrest]
    exact ⟨le_rfl, hmax.le⟩
  have hconstant : 0 < timeConstant := not_le.1 hpositive
  have hfraction (hle : dt ≤ timeConstant) : dt / timeConstant ∈ Set.Icc 0 1 :=
    ⟨(div_pos hdt hconstant).le, (div_le_one hconstant).2 hle⟩
  have hmem (hle : dt ≤ timeConstant) :=
    hlags.speed_after_mem hmax.le (hfraction hle) hspeed
  refine ⟨⟨fun hall => ?_, hmem⟩, fun hle => ⟨?_, ?_⟩, fun config => maxThrust_of_buildRotor h⟩
  · by_contra hlt
    have hfast := hlags.lt_speed_run_one hmax ((one_lt_div hconstant).2 (not_le.1 hlt)) hrest
    exact (hall [1]).2.not_gt hfast
  · intro duty hduty n
    rw [hlags.speed_after_replicate hmax.le (hfraction hle) hspeed hduty, hrest]
    ring
  · rintro p histories rfl
    have hcoefficient : 0 < p.constants.thrustCoefficient :=
      not_le.1 (RotorConstants.check_eq_ok hcheck).2.2
    have hspeeds : ∀ s ∈ (histories.map fun duties => (r.after duties).spin).map (·.speed),
        s ∈ Set.Icc 0 maxSpeed := by
      simp only [List.map_map, List.forall_mem_map]
      exact fun duties _ => hmem hle duties
    have hthrust := bodyThrust_le hcoefficient.le hspeeds
    rwa [List.length_map, List.length_map] at hthrust

/-- A timestep of one millisecond resolves a time constant of twenty, and not one of less than a
half. -/
theorem speed_after_mem_iff_millisecond :
    (∃ r : Rotor ℝ, lag .standard 1000 (1 / 50) (1 / 1000) = .ok r ∧
      (r.after [1 / 2, 1 / 2]).spin.speed = 48.75 ∧
      let spins := [(r.after [1, 1]).spin, (r.after [1]).spin]
      ((Propulsion.idle [] .standard).run spins 1).wrench.thrust ≤ 20) ∧
    ∃ r : Rotor ℝ, lag .standard 1000 (1 / 2500) (1 / 1000) = .ok r ∧
      ¬ ∀ duties, (r.after duties).spin.speed ∈ Set.Icc 0 1000 := by
  have hcheck : (RotorConstants.standard : RotorConstants ℝ).check = .ok () := by
    norm_num [RotorConstants.standard, RotorConstants.check]
  have hbuild (timeConstant : ℝ) (h : 0 < timeConstant) :
      ∃ r, lag .standard 1000 timeConstant (1 / 1000) = .ok r :=
    exists_bind_ok ⟨(), hcheck⟩ fun _ => ⟨_, if_neg (not_le.2 h)⟩
  constructor
  · obtain ⟨r, h⟩ := hbuild (1 / 50) (by norm_num)
    obtain ⟨-, hresolved, -⟩ := speed_after_mem_iff h (by norm_num) (by norm_num)
    obtain ⟨hspeed, hthrust⟩ := hresolved (by norm_num)
    refine ⟨r, h, ?_, ?_⟩
    · have hhalf := hspeed (1 / 2) ⟨by norm_num, by norm_num⟩ 2
      norm_num [List.replicate] at hhalf ⊢
      exact hhalf
    · have hfull := hthrust (.idle [] .standard) [[1, 1], [1]] rfl
      refine hfull.trans ?_
      norm_num [RotorConstants.standard]
  · obtain ⟨r, h⟩ := hbuild (1 / 2500) (by norm_num)
    obtain ⟨hiff, -⟩ := speed_after_mem_iff h (by norm_num) (by norm_num)
    refine ⟨r, h, fun hall => ?_⟩
    have hle := hiff.1 hall
    norm_num at hle

end Rotor

end Multirotor
