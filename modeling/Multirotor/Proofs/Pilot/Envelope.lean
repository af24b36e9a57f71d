import Multirotor.Proofs.Aircraft.Operation
import Multirotor.Proofs.Aircraft.Reset
import Multirotor.Proofs.Pilot.Moved
import Multirotor.Proofs.Scalar.Clamp

/-!
# The envelope of the autopilot

What the autopilot asks for is within limits at doubles, whatever its loops hold and whatever it is
shown: the thrust is held between zero and what the rotors deliver, and the duty of each rotor
between zero and one, NaN included (`ControlOutput.Within`).  A rotor holds the duty it is given
once more and never spins backward (`Spin.Within`).  No operation changes the limits, so they hold
along any history (`Autopilot.outputs_within_limits`).
-/

namespace Multirotor

open Binary64

/-- The thrust and the duty of each rotor are numbers within their limits. -/
structure ControlOutput.Within (maxThrust : Float) (count : Nat) (out : ControlOutput Float) :
    Prop where
  thrust : Between 0 maxThrust out.demand.thrust
  length : out.duties.length = count
  duties : ∀ d ∈ out.duties, Between 0 1 d

/-- The duty of a rotor is within its limits and the speed is a number that is not negative. -/
structure Spin.Within (s : Spin Float) : Prop where
  duty : Between 0 1 s.duty
  zero_le_speed : 0 ≤ s.speed
  isNumber : Scalar.isNaN s.speed = false

/-! ## One tick -/

theorem between_duty (x : Float) : Between 0 1 (Scalar.clamp x 0 1) :=
  between_clamp (rfl : Scalar.isFinite (1 : Float) = true) (by decide +kernel) x

theorem Mixer.between_duties (m : Mixer Float) (demand : Wrench Float) :
    ∀ d ∈ m.duties demand, Between 0 1 d := by
  intro d hd
  obtain ⟨wanted, -, rfl⟩ := List.mem_map.1 hd
  exact between_duty wanted

theorem Rotor.within_step (r : Rotor Float) (duty : Float) (voltage : Option Float) :
    (r.step duty voltage).spin.Within where
  duty := between_duty duty
  zero_le_speed := (zero_le_larger _).1
  isNumber := (zero_le_larger _).2

/-- The greatest thrust is a finite number that is not negative. -/
structure ClimbControl.Delivers (c : ClimbControl Float) (maxThrust : Float) : Prop where
  maxThrust_eq : c.maxThrust = maxThrust
  isFinite : Scalar.isFinite maxThrust = true
  zero_le : 0 ≤ maxThrust

theorem ClimbControl.Delivers.between_run {c : ClimbControl Float} {maxThrust : Float}
    (h : c.Delivers maxThrust) (target altitude climbRate : Float) (e : Euler Float) :
    Between 0 maxThrust (c.run target altitude climbRate e).1 := by
  obtain ⟨rfl, hfinite, hmax⟩ := h
  exact between_clamp hfinite hmax _

namespace Autopilot

theorem guide_climb {α : Type} [Scalar α] (a : Autopilot α) (o : Observation α)
    (target : Option (Target α)) : (a.guide o target).2.climb = a.climb := by
  cases h : a.mode <;> simp only [guide, h] <;> rfl

theorem within_run {a : Autopilot Float} {maxThrust : Float} (h : a.climb.Delivers maxThrust)
    (o : Observation Float) (target : Option (Target Float)) :
    (a.run o target).1.Within maxThrust a.mixer.rotorCount where
  thrust := by
    rw [← guide_climb a o target] at h
    exact h.between_run _ _ _ _
  length := length_duties a o target
  duties := Mixer.between_duties _ _

/-! ## Any history -/

/-- The parts of an autopilot that no operation changes are those of its reset. -/
theorem reset_perform {α : Type} [Scalar α] (a : Autopilot α) (op : PilotOperation α) :
    (a.perform op).2.reset = a.reset := by
  cases op with
  | run o target => exact reset_run a o target
  | reset => rfl

theorem within_answers {a : Autopilot Float} {maxThrust : Float}
    (h : a.climb.Delivers maxThrust) (ops : List (PilotOperation Float)) :
    ∀ answer ∈ a.answers ops, ∀ out ∈ answer.1, out.Within maxThrust a.mixer.rotorCount := by
  induction ops generalizing a with
  | nil => exact fun _ hmem => absurd hmem List.not_mem_nil
  | cons op ops ih =>
    have hreset := reset_perform a op
    have hmixer : (a.perform op).2.mixer = a.mixer := congrArg (·.mixer) hreset
    have hclimb : (a.perform op).2.climb.maxThrust = a.climb.maxThrust :=
      congrArg (·.climb.maxThrust) hreset
    have hnext := ih (a := (a.perform op).2) ⟨hclimb.trans h.maxThrust_eq, h.isFinite, h.zero_le⟩
    rw [hmixer] at hnext
    rw [answers, List.forall_mem_cons]
    refine ⟨fun out hout => ?_, hnext⟩
    cases op with
    | run o target =>
      obtain rfl := Option.some.inj hout
      exact within_run h o target
    | reset => cases hout

/-- The thrust and the duties that an autopilot asks for are within their limits, along any history
and for anything that it is shown or told; and a rotor holds whatever duty it is given within its
limits and does not spin backward. -/
theorem outputs_within_limits {maxThrust : Float} (hfinite : Scalar.isFinite maxThrust = true)
    (hmax : 0 ≤ maxThrust) (mode : ControlMode) (p : PilotParameters Float)
    (airframe : Airframe Float) (mixer : Mixer Float) (dt : Float)
    (ops : List (PilotOperation Float)) :
    (∀ answer ∈ (start mode p airframe maxThrust mixer dt).answers ops, ∀ out ∈ answer.1,
      out.Within maxThrust mixer.rotorCount) ∧
    (∀ mounts constants curve, Mixer.build mounts constants curve = .ok mixer →
      mixer.rotorCount = mounts.length) ∧
    ∀ (r : Rotor Float) duty voltage, (r.step duty voltage).spin.Within := by
  refine ⟨?_, fun mounts constants curve h => Mixer.rotorCount_eq h, Rotor.within_step⟩
  have hclimb : (start mode p airframe maxThrust mixer dt).climb.Delivers maxThrust :=
    ⟨rfl, hfinite, hmax⟩
  exact within_answers hclimb ops

/-- Four rotors at the corners of a square, whose autopilot is shown NaN after a reset and told to
go to infinity. -/
theorem outputs_within_limits_square :
    let o : Observation Float :=
      { position := ⟨nan, nan, nan⟩, groundVelocity := 0, bodyVelocity := 0, angularVelocity := 0
        angles := 0, weather := none }
    let target : Target Float :=
      .waypoint { Waypoint.origin with altitude := infinity, speed := infinity }
    ∃ mixer, Mixer.build (Configuration.standard : Configuration Float).mounts .standard
      (.proportional 1000) = .ok mixer ∧
    ((start .scripted .standard Configuration.standard.airframe 20 mixer 0.001).reset.run o
      (some target)).1.Within 20 4 := by
  intro o target
  have hbuild : (Mixer.build (Configuration.standard : Configuration Float).mounts .standard
    (.proportional 1000)).isOk = true := by decide +kernel
  cases h : Mixer.build (Configuration.standard : Configuration Float).mounts .standard
    (.proportional 1000) with
  | error f =>
    rw [h] at hbuild
    cases hbuild
  | ok mixer =>
    have hfinite : Scalar.isFinite (20 : Float) = true := rfl
    obtain ⟨hanswers, hcount, -⟩ := outputs_within_limits hfinite (by decide +kernel) .scripted
      .standard Configuration.standard.airframe mixer 0.001 [.reset, .run o (some target)]
    rw [hcount _ _ _ h] at hanswers
    exact ⟨mixer, rfl, hanswers _ (List.mem_cons_of_mem _ (List.mem_singleton_self _)) _ rfl⟩

end Autopilot

end Multirotor
