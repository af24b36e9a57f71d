import Multirotor.Instrument.Inertial
import Multirotor.Proofs.Space.Vector

/-!
# Constant quantities

An instrument averages its samples and adds noise.  Where all samples are the same the mean is that
sample, whatever the length of the window, and an instrument without noise shows it
(`Triad.read_add`).  An accelerometer that is fed one velocity senses no change of it from the first
tick on, since a reset forgets the velocity before (`Accelerometer.Steady.value_run`).
-/

namespace Multirotor

/-! ## Without noise -/

namespace Noise

variable {n : Noise ℝ}

theorem generator_of_build {variance : ℝ} {seed : Option UInt64} {r : Randomness ℝ}
    (h : build variance seed r = .ok n) (hsilent : variance ≤ 0) : n.generator = none := by
  rw [build, deviation?, if_neg (not_lt.2 hsilent)] at h
  obtain rfl := Except.ok.inj h
  rfl

theorem generator_reset (h : n.generator = none) : n.reset.generator = none := by
  rw [reset, h]
  rfl

theorem perturb_of_silent (h : n.generator = none) (x : ℝ) : n.perturb x = (x, n) := by
  simp only [perturb, h]

end Noise

/-! ## Windows -/

namespace SampleWindow

/-- Every sample in the window is `x`. -/
def Holds (w : SampleWindow ℝ) (x : ℝ) : Prop := ∀ y ∈ w.samples, y = x

variable {w : SampleWindow ℝ} {x : ℝ}

theorem holds_reset (w : SampleWindow ℝ) (x : ℝ) : w.reset.Holds x := by
  simp [Holds, reset]

theorem Holds.add (h : w.Holds x) : (w.add x).Holds x := by
  intro y hy
  obtain hkept | rfl : y ∈ w.samples ∨ y = x := by
    unfold SampleWindow.add at hy
    dsimp only at hy
    split_ifs at hy
    · exact (List.mem_append.1 hy).imp List.mem_of_mem_drop List.mem_singleton.1
    · exact (List.mem_append.1 hy).imp id List.mem_singleton.1
  · exact h y hkept
  · rfl

theorem samples_add_ne_nil (w : SampleWindow ℝ) (x : ℝ) : (w.add x).samples ≠ [] :=
  List.append_ne_nil_of_right_ne_nil _ (List.cons_ne_nil x [])

theorem mean_of_ne_nil (h : w.samples ≠ []) : w.mean = w.samples.sum / w.size := by
  have hempty : w.samples.isEmpty = false := List.isEmpty_eq_false_iff.2 h
  rw [SampleWindow.mean, hempty, if_neg Bool.false_ne_true, ← List.sum_eq_foldl, size]

theorem Holds.mean (h : w.Holds x) (hne : w.samples ≠ []) : w.mean = x := by
  have hlength : (w.samples.length : ℝ) ≠ 0 :=
    Nat.cast_ne_zero.2 fun h0 => hne (List.length_eq_zero_iff.1 h0)
  rw [mean_of_ne_nil hne, List.sum_eq_card_nsmul _ x h, nsmul_eq_mul, size,
    mul_div_cancel_left₀ x hlength]

end SampleWindow

/-! ## Three axes -/

namespace Triad

/-- Every sample in the three windows is the given vector. -/
structure Holds (t : Triad ℝ) (v : Vec3 ℝ) : Prop where
  x : t.windows.x.Holds v.x
  y : t.windows.y.Holds v.y
  z : t.windows.z.Holds v.z

variable {t : Triad ℝ} {v : Vec3 ℝ}

theorem holds_reset (t : Triad ℝ) (v : Vec3 ℝ) : t.reset.Holds v :=
  ⟨SampleWindow.holds_reset _ _, SampleWindow.holds_reset _ _, SampleWindow.holds_reset _ _⟩

theorem Holds.add (h : t.Holds v) : (t.add v).Holds v := ⟨h.x.add, h.y.add, h.z.add⟩

theorem Holds.mean_add (h : t.Holds v) : (t.add v).mean = v := by
  ext
  · exact h.x.add.mean (SampleWindow.samples_add_ne_nil _ _)
  · exact h.y.add.mean (SampleWindow.samples_add_ne_nil _ _)
  · exact h.z.add.mean (SampleWindow.samples_add_ne_nil _ _)

/-- Without noise the means are shown as they are. -/
theorem read_of_silent (h : t.noise.generator = none) : t.read = (t.mean, t) := by
  simp only [read, Noise.perturb_of_silent h]

theorem read_add (h : t.Holds v) (hsilent : t.noise.generator = none) :
    (t.add v).read = (v, t.add v) := by
  rw [read_of_silent (t := t.add v) hsilent, h.mean_add]

end Triad

/-! ## The accelerometer -/

namespace Accelerometer

/-- An accelerometer without noise that, since its reset, was fed the velocity `v` and sensed the
force `f` only. -/
structure Steady (a : Accelerometer ℝ) (v f : Vec3 ℝ) : Prop where
  silent : a.triad.noise.generator = none
  previous : ∀ u ∈ a.previous, u = v
  holds : a.triad.Holds f

variable {a : Accelerometer ℝ} {m : InertialMotion ℝ} {v f : Vec3 ℝ}

theorem steady_reset (h : a.triad.noise.generator = none) (v f : Vec3 ℝ) : a.reset.Steady v f :=
  ⟨Noise.generator_reset h, (fun _ hu => nomatch hu), Triad.holds_reset _ _⟩

namespace Steady

theorem specificForce (h : a.Steady m.velocity f) : a.specificForce m =
    m.angularVelocity.cross m.velocity - m.angles.toBody (.vertical a.gravity) := by
  cases hprevious : a.previous with
  | none =>
    simp only [Accelerometer.specificForce, hprevious, Vec3.zero_add]
  | some u =>
    have hu : u = m.velocity := h.previous u hprevious
    have hchange : (m.velocity - m.velocity) / a.dt = 0 := by ext <;> simp
    simp only [Accelerometer.specificForce, hprevious, hu, hchange, Vec3.zero_add]

section Run

variable (h : a.Steady m.velocity f)
  (hf : m.angularVelocity.cross m.velocity - m.angles.toBody (.vertical a.gravity) = f)

include h hf

theorem read_run : (a.triad.add (a.specificForce m)).read = (f, a.triad.add f) := by
  rw [h.specificForce, hf, Triad.read_add h.holds h.silent]

theorem run : (a.run m).Steady m.velocity f := by
  have hread := h.read_run hf
  refine ⟨?_, ?_, ?_⟩
  · simp only [Accelerometer.run, hread]
    exact h.silent
  · rintro u ⟨⟩
    rfl
  · simp only [Accelerometer.run, hread]
    exact h.holds.add

theorem value_run : (a.run m).value = f := by
  simp only [Accelerometer.run, h.read_run hf]

end Run

end Steady

end Accelerometer

end Multirotor
