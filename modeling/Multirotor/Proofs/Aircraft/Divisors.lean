import Multirotor.Proofs.Aircraft.Buildable
import Multirotor.Proofs.Scalar.Binary64

/-!
# What the simulation divides by

The timestep, the masses, the constants of the rotors and what follows from them are divided by in
every tick, and building an aircraft checks them.  Some checks ask for a value above zero, and
others refuse a value of zero or less.  `Aircraft.Guarded` says what they make sure of together,
where `weak` is what the second kind leaves of a value.

For exact numbers the two kinds come to the same, and four rotors at least carry the aircraft.  For
doubles the second kind lets NaN through.  The greatest speed may then be zero although everything
it is computed from is positive, and three rotors may be enough (`exists_build_faint`,
`exists_build_overflowing`).
-/

namespace Multirotor

variable {α : Type} [Scalar α]

/-! ## The two kinds of checks -/

/-- What is known about the divisors of an aircraft that was built. -/
structure Aircraft.Guarded (weak : α → Prop) (c : Configuration α) (a : Aircraft α) : Prop where
  timeStep : 0 < c.timeStep
  mass : 0 < c.mass
  inertia : 0 < c.inertia.x ∧ 0 < c.inertia.y ∧ 0 < c.inertia.z
  resistance : weak c.rotor.resistance
  rotorInertia : weak c.rotor.inertia
  thrustCoefficient : weak c.rotor.thrustCoefficient
  timeConstant : ∀ r ∈ a.rotors, ∀ gain timeConstant, r.drive = .lag gain timeConstant →
    weak timeConstant
  gravity : c.directDuties = false → 0 < c.gravity
  battery : ∀ b ∈ c.battery, 0 < b.voltage ∧ 0 < c.rotor.motorConstant
  rotors : a.rotors.length = c.rotorCount.toNat
  windows : ∀ kind, 1 ≤ (c.instruments.get kind).sampleCount.toNat

theorem Airframe.check_eq_ok {f : Airframe α} (h : f.check = .ok ()) :
    0 < f.mass ∧ 0 < f.inertia.x ∧ 0 < f.inertia.y ∧ 0 < f.inertia.z := by
  unfold check at h
  split_ifs at h with hm hx hy hz
  exact ⟨hm, hx, hy, hz⟩

theorem RotorConstants.check_eq_ok {c : RotorConstants α} (h : c.check = .ok ()) :
    ¬ c.resistance ≤ 0 ∧ ¬ c.inertia ≤ 0 ∧ ¬ c.thrustCoefficient ≤ 0 := by
  unfold check at h
  split_ifs at h with hr hj ht
  exact ⟨hr, hj, ht⟩

theorem Configuration.checkDrive_eq_ok {c : Configuration α} (h : c.checkDrive = .ok ()) :
    (c.directDuties = false → 0 < c.gravity) ∧
      ∀ b ∈ c.battery, 0 < b.voltage ∧ 0 < c.rotor.motorConstant := by
  cases hb : c.battery with
  | none =>
    simp only [checkDrive, hb] at h
    split_ifs at h with hg
    exact ⟨fun hd => by_contra fun h0 => hg ⟨h0, hd⟩, by simp⟩
  | some b =>
    simp only [checkDrive, hb] at h
    split_ifs at h with hg hv hk
    refine ⟨fun hd => by_contra fun h0 => hg ⟨h0, hd⟩, ?_⟩
    rintro _ ⟨⟩
    exact ⟨hv, hk⟩

theorem forM_eq_ok {ε β : Type} {f : β → Except ε Unit} {l : List β} :
    forM l f = .ok () ↔ ∀ x ∈ l, f x = .ok () := by
  induction l with
  | nil => simp [pure, Except.pure]
  | cons x l ih =>
    rw [List.forM_cons, bind_eq_ok, List.forall_mem_cons, ← ih]
    exact ⟨fun ⟨⟨⟩, hx, hl⟩ => ⟨hx, hl⟩, fun ⟨hx, hl⟩ => ⟨(), hx, hl⟩⟩

omit [Scalar α] in
theorem PanelSettings.check_eq_ok {s : PanelSettings α} (h : s.check = .ok ())
    (kind : InstrumentKind) : 1 ≤ (s.get kind).sampleCount.toNat := by
  have hkind := forM_eq_ok.1 h kind (by cases kind <;> decide)
  unfold InstrumentSettings.check at hkind
  split_ifs at hkind with hzero
  refine Nat.one_le_iff_ne_zero.2 fun h0 => hzero ?_
  exact UInt64.toNat_inj.1 h0

namespace Aircraft

/-- The time constant of a rotor with a lag is checked where the rotor is built. -/
theorem timeConstant_of_buildRotor {c : Configuration α} {r : Rotor α}
    (h : buildRotor c = .ok r) {gain timeConstant : α} (hr : r.drive = .lag gain timeConstant) :
    ¬ timeConstant ≤ 0 := by
  unfold buildRotor at h
  split at h
  · obtain ⟨-, rfl⟩ := Rotor.onBattery_eq_ok h
    cases hr
  · obtain ⟨-, ht, rfl⟩ := Rotor.lag_eq_ok h
    cases hr
    exact ht

theorem guarded_of_build {weak : α → Prop} (hweak : ∀ x : α, ¬ x ≤ 0 → weak x)
    {c : Configuration α} {r : Randomness α} {a : Aircraft α} {events : List (Event α)}
    (h : build c r = .ok (a, events)) : Guarded weak c a := by
  have hasm := assembly_of_build h
  obtain ⟨htime, hframe, hrotor, hdrive, -, hpanel⟩ := Configuration.check_eq_ok.1 hasm.check
  obtain ⟨hmass, hinertia⟩ := Airframe.check_eq_ok hframe
  obtain ⟨hr, hj, ht⟩ := RotorConstants.check_eq_ok hrotor
  obtain ⟨hgravity, hbattery⟩ := Configuration.checkDrive_eq_ok hdrive
  exact
    { timeStep := Configuration.timeStep_pos htime
      mass := hmass
      inertia := hinertia
      resistance := hweak _ hr
      rotorInertia := hweak _ hj
      thrustCoefficient := hweak _ ht
      timeConstant := fun r hr gain τ hτ =>
        hweak τ (timeConstant_of_buildRotor (hasm.rotors r hr) hτ)
      gravity := hgravity
      battery := hbattery
      rotors := hasm.rotorCount
      windows := PanelSettings.check_eq_ok hpanel }

end Aircraft

/-! ## Exact numbers -/

namespace Aircraft

/-- At exact numbers everything that is divided by is positive. -/
theorem guarded_of_build_exact {c : Configuration ℝ} {r : Randomness ℝ} {a : Aircraft ℝ}
    {events : List (Event ℝ)} (h : build c r = .ok (a, events)) :
    Guarded (0 < ·) c a ∧ 4 ≤ a.rotors.length ∧
      (c.directDuties = false → match c.battery with
        | none => 0 < c.maxRotorSpeed
        | some b => 0 < b.voltage * c.rotor.motorConstant) := by
  have hasm := assembly_of_build h
  have hguarded : Guarded (0 < ·) c a := guarded_of_build (fun _ => not_le.1) h
  have hfour : 4 ≤ a.rotors.length := by
    rw [hasm.rotorCount, ← hasm.checkRotorCount]
    exact Mixer.four_le_length hasm.mixer
  refine ⟨hguarded, hfour, fun hdirect => ?_⟩
  split
  · have hcount : (0 : ℝ) < c.rotorCount.toNat := by
      rw [← hguarded.rotors]
      exact_mod_cast lt_of_lt_of_le (by norm_num) hfour
    have hhover : 0 < c.hoverSpeed := Real.sqrt_pos.2 (div_pos
      (mul_pos hguarded.mass (hguarded.gravity hdirect))
      (mul_pos hguarded.thrustCoefficient hcount))
    rw [Configuration.maxRotorSpeed, Scalar.two_real]
    positivity
  · next b hb =>
    obtain ⟨hv, hk⟩ := hguarded.battery b hb
    exact mul_pos hv hk

/-! ## Doubles -/

/-- Among doubles the checks for zero or less let NaN through. -/
theorem guarded_of_build_binary64 {c : Configuration Float} {r : Randomness Float}
    {a : Aircraft Float} {events : List (Event Float)} (h : build c r = .ok (a, events)) :
    Guarded (fun x => 0 < x ∨ Scalar.isNaN x = true) c a :=
  guarded_of_build (fun _ => Binary64.pos_or_isNaN) h

/-- The standard aircraft with motors whose resistance is not a number. -/
def withoutResistance : Configuration Float :=
  { Configuration.standard with
    rotor := { RotorConstants.standard with resistance := Binary64.nan } }

theorem exists_build_of_matches {c : Configuration Float} {r : Randomness Float}
    (h : (build c r matches .ok _) = true) : ∃ built, build c r = .ok built := by
  cases hbuild : build c r with
  | ok built => exact ⟨built, rfl⟩
  | error f =>
    rw [hbuild] at h
    cases h

theorem exists_build_withoutResistance :
    ∃ built, build withoutResistance (.boxMuller fun _ _ => 0) = .ok built :=
  exists_build_of_matches (by decide +kernel)

/-- An aircraft is built whose resistance is not a number. -/
theorem not_guarded_withoutResistance : ∃ a events,
    build withoutResistance (.boxMuller fun _ _ => 0) = .ok (a, events) ∧
      ¬ Guarded (0 < ·) withoutResistance a := by
  obtain ⟨⟨a, events⟩, h⟩ := exists_build_withoutResistance
  refine ⟨a, events, h, fun hguarded => ?_⟩
  have hnan : ¬ (0 : Float) < Binary64.nan := by decide +kernel
  exact hnan hguarded.resistance

theorem guarded_withoutResistance : ∃ a events,
    build withoutResistance (.boxMuller fun _ _ => 0) = .ok (a, events) ∧
      Guarded (fun x => 0 < x ∨ Scalar.isNaN x = true) withoutResistance a := by
  obtain ⟨⟨a, events⟩, h⟩ := exists_build_withoutResistance
  exact ⟨a, events, h, guarded_of_build_binary64 h⟩

/-- A mass and a gravity whose product is less than any positive double. -/
def faint : Configuration Float :=
  { Configuration.standard with mass := 1e-200, gravity := 1e-200 }

/-- The greatest speed, by which the mixer divides, is not checked itself. -/
theorem exists_build_faint : (∃ built, build faint (.boxMuller fun _ _ => 0) = .ok built) ∧
    faint.directDuties = false ∧ ¬ 0 < faint.maxRotorSpeed :=
  ⟨exists_build_of_matches (by decide +kernel), rfl, by decide +kernel⟩

/-- Three rotors, so strong and so far out that their torques are infinite. -/
def overflowing : Configuration Float :=
  { Configuration.standard with
    rotorCount := 3
    mounts := [{ position := ⟨1e300, 1e300, 0⟩, ccw := 1 },
      { position := ⟨-1e300, 1e300, 0⟩, ccw := -1 }, { position := ⟨-1e300, -1e300, 0⟩, ccw := 1 }]
    rotor := { RotorConstants.standard with thrustCoefficient := 1e300 } }

/-- A determinant that is not a number is not below the least one the mixer accepts. -/
theorem exists_build_overflowing : ∃ a events,
    build overflowing (.boxMuller fun _ _ => 0) = .ok (a, events) ∧ a.rotors.length = 3 := by
  obtain ⟨⟨a, events⟩, h⟩ := exists_build_of_matches (c := overflowing)
    (r := .boxMuller fun _ _ => 0) (by decide +kernel)
  exact ⟨a, events, h, (assembly_of_build h).rotorCount⟩

end Aircraft

end Multirotor
