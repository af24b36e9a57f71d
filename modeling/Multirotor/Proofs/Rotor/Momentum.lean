import Mathlib.Algebra.BigOperators.Intervals
import Multirotor.Proofs.Aircraft.Divisors
import Multirotor.Proofs.Mixing.Steady

/-!
# The momentum of rotors

What speeds a rotor up pushes the body the other way.  The acceleration that a tick records is the
change of speed that took place, so that over any history the recorded accelerations add up to the
speed (`Rotor.sum_acceleration_following`), also where a tick held the speed at zero.  On a battery
it is the acceleration by the torque of the current less drag and friction exactly if the tick did
not hold the speed (`Rotor.inertia_mul_acceleration_iff`).  The torque of several rotors about down
is a sum of such terms, and its sum over any number of ticks is what the rotors gained in momentum
together with what the drag of the blades took (`Rotor.momentum_balance`).
-/

namespace Multirotor

open Finset Scalar

/-! ## Rotors under commands -/

namespace Rotor

section Following

variable {α : Type} [Scalar α]

/-- What a rotor is told in a tick. -/
structure Command (α : Type) where
  duty : α
  /-- In place of the voltage of the battery. -/
  voltage : Option α
  deriving DecidableEq, Repr

/-- The rotor after its first commands. -/
def following (r : Rotor α) (commands : ℕ → Command α) : ℕ → Rotor α
  | 0 => r
  | t + 1 => (r.following commands t).step (commands t).duty (commands t).voltage

/-- The speed that a tick leads to before it is held above zero. -/
def freeSpeed (r : Rotor α) (c : Command α) : α :=
  r.spin.speed + (r.respond c.voltage r.spin.speed (clamp c.duty 0 1)).1 * r.dt

variable (r : Rotor α) (commands : ℕ → Command α) (t : ℕ)

@[simp] theorem dt_following : (r.following commands t).dt = r.dt := by
  induction t with
  | zero => rfl
  | succ t ih => exact ih

@[simp] theorem constants_following : (r.following commands t).constants = r.constants := by
  induction t with
  | zero => rfl
  | succ t ih => exact ih

@[simp] theorem drive_following : (r.following commands t).drive = r.drive := by
  induction t with
  | zero => rfl
  | succ t ih => exact ih

end Following

variable {r : Rotor ℝ}

/-! ## One tick -/

theorem speed_step_eq_max (r : Rotor ℝ) (c : Command ℝ) :
    (r.step c.duty c.voltage).spin.speed = max (r.freeSpeed c) 0 := larger_real _ _

theorem acceleration_step_mul (hdt : r.dt ≠ 0) (c : Command ℝ) :
    (r.step c.duty c.voltage).spin.acceleration * r.dt =
      (r.step c.duty c.voltage).spin.speed - r.spin.speed := div_mul_cancel₀ _ hdt

/-- The torque of the current turns the rotor against drag and friction, unless the speed is
held. -/
theorem inertia_mul_acceleration_iff (hdt : r.dt ≠ 0) (hinertia : r.constants.inertia ≠ 0)
    {source : Battery ℝ} (hdrive : r.drive = .battery source) (c : Command ℝ) :
    ∃ current, (r.step c.duty c.voltage).spin.current = some current ∧
      (r.constants.inertia * (r.step c.duty c.voltage).spin.acceleration =
          r.constants.motorConstant * current - r.constants.torqueCoefficient * r.spin.speed ^ 2 -
            r.constants.friction * r.spin.speed ↔
        0 ≤ r.freeSpeed c) := by
  let k := r.constants
  let v := c.voltage.getD source.voltage
  let duty := clamp c.duty 0 1
  let current := RotorConstants.current k.resistance k.motorConstant v r.spin.speed duty
  have hrespond : r.respond c.voltage r.spin.speed duty =
      (k.acceleration v r.spin.speed duty, some current) := by
    rw [respond, hdrive]
  have htorque : k.inertia * k.acceleration v r.spin.speed duty =
      k.motorConstant * current - k.torqueCoefficient * r.spin.speed ^ 2 -
        k.friction * r.spin.speed := by
    rw [RotorConstants.acceleration, mul_div_cancel₀ _ hinertia]
    simp only [current, RotorConstants.current]
    ring
  have hfree : r.freeSpeed c = r.spin.speed + k.acceleration v r.spin.speed duty * r.dt := by
    rw [freeSpeed, hrespond]
  refine ⟨current, congrArg Prod.snd hrespond, ?_⟩
  rw [← htorque, mul_right_inj' hinertia, ← mul_left_inj' hdt, acceleration_step_mul hdt,
    speed_step_eq_max, sub_eq_iff_eq_add', ← hfree]
  exact max_eq_left_iff

/-! ## Any number of ticks -/

/-- The accelerations of a history add up to the change of speed. -/
theorem sum_acceleration_following (hdt : r.dt ≠ 0) (commands : ℕ → Command ℝ) (n : ℕ) :
    ∑ t ∈ range n, (r.following commands (t + 1)).spin.acceleration * r.dt =
      (r.following commands n).spin.speed - r.spin.speed := by
  have hstep (t : ℕ) : (r.following commands (t + 1)).spin.acceleration * r.dt =
      (r.following commands (t + 1)).spin.speed - (r.following commands t).spin.speed := by
    have hnext := acceleration_step_mul (r := r.following commands t)
      (by rwa [dt_following]) (commands t)
    rwa [dt_following] at hnext
  rw [sum_congr rfl fun t _ => hstep t]
  exact sum_range_sub (fun t => (r.following commands t).spin.speed) n

/-- The reaction of a rotor over a history: its gain of momentum and the drag of its blades. -/
theorem sum_reaction_following (hdt : r.dt ≠ 0) (commands : ℕ → Command ℝ)
    (torqueCoefficient inertia ccw : ℝ) (n : ℕ) :
    let spin t := (r.following commands t).spin
    ∑ t ∈ range n,
        bladeReaction torqueCoefficient inertia (spin (t + 1)).speed (spin (t + 1)).acceleration
          ccw * r.dt =
      ccw * (inertia * ((spin n).speed - r.spin.speed) +
        torqueCoefficient * ∑ t ∈ range n, (spin (t + 1)).speed ^ 2 * r.dt) := by
  intro spin
  have hterm (t : ℕ) : bladeReaction torqueCoefficient inertia (spin (t + 1)).speed
      (spin (t + 1)).acceleration ccw * r.dt =
        ccw * (inertia * ((spin (t + 1)).acceleration * r.dt) +
          torqueCoefficient * ((spin (t + 1)).speed ^ 2 * r.dt)) := by
    rw [bladeReaction]
    ring
  rw [sum_congr rfl fun t _ => hterm t, ← mul_sum, sum_add_distrib, ← mul_sum, ← mul_sum,
    sum_acceleration_following hdt]

end Rotor

/-! ## Several rotors -/

namespace Propulsion

/-- The mounts after the first ticks of rotors that follow their commands. -/
def following {α : Type} [Scalar α] (p : Propulsion α)
    (crew : List (Rotor α × (ℕ → Rotor.Command α))) (atm : ℕ → α) : ℕ → Propulsion α
  | 0 => p
  | t + 1 =>
    (p.following crew atm t).run
      (crew.map fun (rotor, commands) => (rotor.following commands (t + 1)).spin) (atm t)

section Following

variable (p : Propulsion ℝ) (crew : List (Rotor ℝ × (ℕ → Rotor.Command ℝ))) (atm : ℕ → ℝ)

@[simp] theorem mounts_following (t : ℕ) : (p.following crew atm t).mounts = p.mounts := by
  induction t with
  | zero => rfl
  | succ t ih => exact ih

@[simp] theorem constants_following (t : ℕ) :
    (p.following crew atm t).constants = p.constants := by
  induction t with
  | zero => rfl
  | succ t ih => exact ih

/-- The thrusts have no moment about down. -/
theorem torque_z_run (spins : List (Spin ℝ)) (pressure : ℝ) :
    (p.run spins pressure).wrench.torque.z =
      ((p.mounts.zip spins).map fun (mount, spin) =>
        bladeReaction p.constants.torqueCoefficient p.constants.inertia spin.speed
          spin.acceleration mount.ccw).sum := by
  change (bodyTorque p.constants p.mounts spins pressure).z = _
  unfold bodyTorque
  induction p.mounts.zip spins with
  | nil => rfl
  | cons pair pairs ih => simp only [List.map_cons, totalTorque_cons, Vec3.add_z, List.sum_cons, ih]

theorem torque_z_following (t : ℕ) :
    (p.following crew atm (t + 1)).wrench.torque.z =
      ((p.mounts.zip crew).map fun (mount, rotor, commands) =>
        bladeReaction p.constants.torqueCoefficient p.constants.inertia
          (rotor.following commands (t + 1)).spin.speed
          (rotor.following commands (t + 1)).spin.acceleration mount.ccw).sum := by
  rw [following, torque_z_run, mounts_following, constants_following, List.zip_map_right,
    List.map_map]
  rfl

end Following

end Propulsion

theorem sum_range_sum_map {ι : Type} (xs : List ι) (f : ℕ → ι → ℝ) (s : ℝ) (n : ℕ) :
    ∑ t ∈ range n, (xs.map (f t)).sum * s = (xs.map fun x => ∑ t ∈ range n, f t x * s).sum := by
  induction xs with
  | nil => simp
  | cons x xs ih => simp only [List.map_cons, List.sum_cons, add_mul, sum_add_distrib, ih]

namespace Rotor

/-- The momentum of rotors, one by one and all together.  From rest the recorded accelerations add
up to the speed.  On a battery each of them is what the current gives less drag and friction,
exactly if the speed was not held at zero.  The torque about down over any number of ticks is the
momentum that the rotors gained and the drag of their blades, whatever the pressure of the air. -/
theorem momentum_balance {dt : ℝ} (hdt : 0 < dt) :
    (∀ (r : Rotor ℝ) (commands : ℕ → Command ℝ), r.dt = dt →
      let before t := r.reset.following commands t
      let spin t := (before t).spin
      (∀ n, ∑ t ∈ range n, (spin (t + 1)).acceleration * dt = (spin n).speed) ∧
      ∀ source, r.drive = .battery source → r.constants.check = .ok () → ∀ t,
        ∃ current, (spin (t + 1)).current = some current ∧
          (r.constants.inertia * (spin (t + 1)).acceleration =
              r.constants.motorConstant * current -
                r.constants.torqueCoefficient * (spin t).speed ^ 2 -
                r.constants.friction * (spin t).speed ↔
            0 ≤ (before t).freeSpeed (commands t))) ∧
    ∀ (p : Propulsion ℝ) (crew : List (Rotor ℝ × (ℕ → Command ℝ))) (atm : ℕ → ℝ),
      (∀ member ∈ crew, member.1.dt = dt) → ∀ n,
        ∑ t ∈ range n, (p.following crew atm (t + 1)).wrench.torque.z * dt =
          ((p.mounts.zip crew).map fun (mount, rotor, commands) =>
            let spin t := (rotor.following commands t).spin
            mount.ccw * (p.constants.inertia * ((spin n).speed - (spin 0).speed) +
              p.constants.torqueCoefficient * ∑ t ∈ range n, (spin (t + 1)).speed ^ 2 * dt)).sum := by
  refine ⟨?_, ?_⟩
  · rintro r commands rfl before spin
    have hreset : r.reset.dt ≠ 0 := hdt.ne'
    refine ⟨fun n => ?_, fun source hdrive hcheck t => ?_⟩
    · exact (sum_acceleration_following hreset commands n).trans (sub_zero _)
    · have hbefore : (before t).dt ≠ 0 := by rwa [dt_following]
      have hbattery : (before t).drive = .battery source := (drive_following _ _ _).trans hdrive
      have hconstants : (before t).constants = r.constants := constants_following _ _ _
      have hinertia : (before t).constants.inertia ≠ 0 := by
        rw [hconstants]
        exact (not_le.1 (RotorConstants.check_eq_ok hcheck).2.1).ne'
      have htick := inertia_mul_acceleration_iff hbefore hinertia hbattery (commands t)
      rwa [hconstants] at htick
  · intro p crew atm hcrew n
    rw [sum_congr rfl fun t _ => by rw [p.torque_z_following crew atm t],
      sum_range_sum_map]
    refine congrArg List.sum (List.map_congr_left ?_)
    rintro ⟨mount, rotor, commands⟩ hmem
    obtain rfl : rotor.dt = dt := hcrew _ (List.of_mem_zip hmem).2
    exact sum_reaction_following hdt.ne' commands _ _ _ n

/-- A rotor with a lag spins up for a tick and is stopped in the next, where its speed would fall
below zero: only the drag of the blades has turned the body then.  A motor that starts on a battery
is turned by all of its current. -/
theorem momentum_balance_stopped :
    let r : Rotor ℝ := .atRest (.lag (1000 / (1 / 2500)) (1 / 2500)) .standard 1000 (1 / 1000)
    let motor : Rotor ℝ := .atRest (.battery { voltage := 10 }) .standard 1000 (1 / 1000)
    let commands t : Command ℝ := { duty := if t = 0 then 1 else 0, voltage := none }
    let p : Propulsion ℝ := .idle [{ position := ⟨1, 2, 3⟩, ccw := -1 }] .standard
    ((r.following commands 1).spin.speed = 2500 ∧ (r.following commands 2).spin.speed = 0) ∧
      ∑ t ∈ range 2, (r.following commands (t + 1)).spin.acceleration * (1 / 1000) = 0 ∧
      1.0e-5 * (motor.following commands 1).spin.acceleration = 3.3e-3 * 100 ∧
      ∑ t ∈ range 2, (p.following [(r, commands)] (fun _ => 0.9) (t + 1)).wrench.torque.z *
        (1 / 1000) = -(1.5e-7 * 2500 ^ 2 * (1 / 1000)) := by
  intro r motor commands p
  have hone : (r.following commands 1).spin.speed = 2500 := by
    simp [r, commands, following, step, respond, lagAcceleration, atRest, Spin.rest, clamp]
    norm_num
  have htwo : (r.following commands 2).spin.speed = 0 := by
    simp [r, commands, following, step, respond, lagAcceleration, atRest, Spin.rest, clamp]
    norm_num
  have hcheck : motor.constants.check = .ok () := by
    norm_num [motor, atRest, RotorConstants.standard, RotorConstants.check]
  have hdt : (0 : ℝ) < 1 / 1000 := by norm_num
  obtain ⟨hsingle, hcrew⟩ := momentum_balance hdt
  refine ⟨⟨hone, htwo⟩, ?_, ?_, ?_⟩
  · exact ((hsingle r commands rfl).1 2).trans htwo
  · obtain ⟨current, hcurrent, hiff⟩ := (hsingle motor commands rfl).2 _ rfl hcheck 0
    have hfree : 0 ≤ motor.freeSpeed (commands 0) := by
      norm_num [motor, commands, freeSpeed, respond, RotorConstants.acceleration, atRest, Spin.rest,
        clamp, RotorConstants.standard]
    have hhundred : current = 100 := by
      have hstart : RotorConstants.current 0.1 3.3e-3 10 0 (clamp 1 0 1) = current :=
        Option.some.inj hcurrent
      rw [← hstart]
      norm_num [RotorConstants.current, clamp]
    have hspeed : (motor.reset.following commands 0).spin.speed = 0 := rfl
    have htorque := hiff.2 hfree
    rw [hhundred, hspeed, zero_pow two_ne_zero, mul_zero, mul_zero, sub_zero, sub_zero] at htorque
    exact htorque
  · have htorque := hcrew p [(r, commands)] (fun _ => 0.9) (by simp [r, atRest]) 2
    have hzero : (r.following commands 0).spin.speed = 0 := rfl
    rw [htorque]
    simp [p, Propulsion.idle, sum_range_succ, hone, htwo, hzero, RotorConstants.standard]
    norm_num

end Rotor

end Multirotor
