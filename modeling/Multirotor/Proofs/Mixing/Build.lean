import Mathlib.Tactic.SplitIfs
import Multirotor.Mixing.Mixer

/-!
# Building a mixer

What `Mixer.build` asks of the rotors and what the mixer consists of.  The lists of a mixer have one
entry for each rotor.
-/

namespace Multirotor

namespace Mixer

variable {α : Type} [Scalar α]

/-- The greatest contribution along each axis. -/
def scale (c : RotorConstants α) (mounts : List (Mount α)) : Effort α :=
  greatest (mounts.map (contribution c))

/-- The contributions brought to a common scale. -/
def normalized (c : RotorConstants α) (mounts : List (Mount α)) : List (Effort α) :=
  (mounts.map (contribution c)).map fun u => u.zipWith (· / ·) (scale c mounts)

theorem length_normalized (c : RotorConstants α) (mounts : List (Mount α)) :
    (normalized c mounts).length = mounts.length := by
  simp [normalized]

variable {mounts : List (Mount α)} {c : RotorConstants α} {curve : DutyCurve α} {m : Mixer α}

theorem build_eq : build mounts c curve =
    if (scale c mounts).toList.any fun s => !decide (0 < s) then .error .dependentRotors
    else
      match gramInverse? (normalized c mounts) with
      | none => .error .dependentRotors
      | some inverse =>
        .ok
          { allocation := (normalized c mounts).map fun u =>
              (EffortMatrix.diagonal ((scale c mounts).map (1 / ·))).rowTimes (inverse.rowTimes u)
            curve } :=
  rfl

theorem build_eq_ok : build mounts c curve = .ok m ↔
    (∀ s ∈ (scale c mounts).toList, 0 < s) ∧
      ∃ inverse, gramInverse? (normalized c mounts) = some inverse ∧
        m =
          { allocation := (normalized c mounts).map fun u =>
              (EffortMatrix.diagonal ((scale c mounts).map (1 / ·))).rowTimes (inverse.rowTimes u)
            curve } := by
  have hscale : (scale c mounts).toList.any (fun s => !decide (0 < s)) = false ↔
      ∀ s ∈ (scale c mounts).toList, 0 < s := by
    simp
  rw [build_eq]
  split_ifs with h
  · have h : ¬ ∀ s ∈ (scale c mounts).toList, 0 < s := fun hpos =>
      Bool.false_ne_true ((hscale.2 hpos).symm.trans h)
    simp only [h, false_and]
  · have h : ∀ s ∈ (scale c mounts).toList, 0 < s := hscale.1 (Bool.eq_false_iff.2 h)
    rw [and_iff_right h]
    split
    · next hnone => simp only [hnone, reduceCtorEq, false_and, exists_false]
    · next inverse hsome =>
      constructor
      · rintro ⟨⟩
        exact ⟨inverse, hsome, rfl⟩
      · rintro ⟨inverse', hsome', rfl⟩
        obtain rfl := Option.some.inj (hsome.symm.trans hsome')
        rfl

theorem rotorCount_eq (h : build mounts c curve = .ok m) : m.rotorCount = mounts.length := by
  obtain ⟨-, inverse, -, rfl⟩ := build_eq_ok.1 h
  simp [rotorCount, normalized]

theorem curve_eq (h : build mounts c curve = .ok m) : m.curve = curve := by
  obtain ⟨-, inverse, -, rfl⟩ := build_eq_ok.1 h
  rfl

theorem length_squaredSpeeds (m : Mixer α) (demand : Wrench α) :
    (m.squaredSpeeds demand).length = m.rotorCount := by
  simp [squaredSpeeds, rotorCount]

theorem length_duties (m : Mixer α) (demand : Wrench α) :
    (m.duties demand).length = m.rotorCount := by
  simp [duties, wantedDuties, speeds, length_squaredSpeeds]

end Mixer

end Multirotor
