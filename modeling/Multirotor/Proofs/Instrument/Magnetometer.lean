import Multirotor.Proofs.Aircraft.Buildable
import Multirotor.Proofs.Instrument.Recent
import Multirotor.Proofs.Space.Rotation

/-!
# The strength of the field that is shown

Every sample of a magnetometer is the field in another frame and has its length.  The mean of such
vectors is no longer than they are (`Triad.Recalls.norm_mean_le`), and as long as they are if they
are all the same; so what is shown without noise is never stronger than the field, and as strong as
the field while the attitude does not change over the window (`Magnetometer.strength_bounded`).
-/

namespace Multirotor

open InstrumentOperation

/-! ## Means of vectors -/

namespace Triad

/-- Each of the three windows recalls its component of the last `n` of some vectors. -/
structure Recalls {α : Type} (t : Triad α) (n : ℕ) (vs : List (Vec3 α)) : Prop where
  x : t.windows.x.Recalls n (vs.map (·.x))
  y : t.windows.y.Recalls n (vs.map (·.y))
  z : t.windows.z.Recalls n (vs.map (·.z))

variable {t : Triad ℝ} {n : ℕ} {vs : List (Vec3 ℝ)}

theorem recalls_of_build {s : InstrumentSettings ℝ} {seed : Option UInt64} {r : Randomness ℝ}
    (h : build s seed r = .ok t) : t.Recalls (max s.sampleCount.toNat 1) [] := by
  obtain ⟨noise, -, rfl⟩ := build_eq_ok h
  have hempty := SampleWindow.recalls_empty (α := ℝ) s.sampleCount.toNat
  exact ⟨hempty, hempty, hempty⟩

namespace Recalls

variable (h : t.Recalls n vs)

include h

theorem reset : t.reset.Recalls n [] := ⟨h.x.reset, h.y.reset, h.z.reset⟩

theorem add (hn : 1 ≤ n) (v : Vec3 ℝ) : (t.add v).Recalls n (vs ++ [v]) := by
  refine ⟨?_, ?_, ?_⟩
  · rw [List.map_append]
    exact h.x.add hn v.x
  · rw [List.map_append]
    exact h.y.add hn v.y
  · rw [List.map_append]
    exact h.z.add hn v.z

omit h in
theorem mean_of_eq_nil (h : t.Recalls n []) : t.mean = 0 := by
  ext
  · exact h.x.mean_of_eq_nil
  · exact h.y.mean_of_eq_nil
  · exact h.z.mean_of_eq_nil

variable (hn : 1 ≤ n) (hne : vs ≠ [])

include hn hne

theorem dot_mean (u : Vec3 ℝ) :
    t.mean.dot u = ((vs.rtake n).map (·.dot u)).sum / (vs.rtake n).length := by
  have hx := h.x.mean_of_ne_nil hn (mt List.map_eq_nil_iff.1 hne)
  have hy := h.y.mean_of_ne_nil hn (mt List.map_eq_nil_iff.1 hne)
  have hz := h.z.mean_of_ne_nil hn (mt List.map_eq_nil_iff.1 hne)
  rw [rtake_map, List.length_map] at hx hy hz
  change t.windows.x.mean * u.x + t.windows.y.mean * u.y + t.windows.z.mean * u.z = _
  simp only [hx, hy, hz, Vec3.dot, List.sum_map_add, List.sum_map_mul_right]
  ring

/-- The mean of vectors is no longer than the longest of them. -/
theorem norm_mean_le {bound : ℝ} (hbound : ∀ v ∈ vs, v.norm ≤ bound) : t.mean.norm ≤ bound := by
  set m := t.mean with hm
  have hlength : (0 : ℝ) < (vs.rtake n).length :=
    Nat.cast_pos.2 (List.length_pos_of_ne_nil (rtake_ne_nil hn hne))
  have hdot (v : Vec3 ℝ) (hv : v ∈ vs.rtake n) : v.dot m ≤ bound * m.norm :=
    (Vec3.dot_le_norm_mul_norm v m).trans
      (mul_le_mul_of_nonneg_right (hbound v (List.mem_of_mem_drop hv)) (Real.sqrt_nonneg _))
  have hsum : ((vs.rtake n).map (·.dot m)).sum ≤ (vs.rtake n).length * (bound * m.norm) := by
    have := List.sum_le_card_nsmul ((vs.rtake n).map (·.dot m)) (bound * m.norm) (by
      rintro x hx
      obtain ⟨v, hv, rfl⟩ := List.mem_map.1 hx
      exact hdot v hv)
    rwa [List.length_map, nsmul_eq_mul] at this
  have hsquare : m.norm * m.norm ≤ bound * m.norm := by
    rw [Vec3.norm_mul_self, h.dot_mean hn hne m, div_le_iff₀ hlength, mul_comm (bound * m.norm)]
    exact hsum
  obtain hzero | hpos := (Real.sqrt_nonneg (m.dot m)).eq_or_lt
  · obtain ⟨v, hv⟩ := List.exists_mem_of_ne_nil vs hne
    exact hzero.symm.trans_le ((Real.sqrt_nonneg _).trans (hbound v hv))
  · exact le_of_mul_le_mul_right hsquare hpos

theorem mean_of_forall {u : Vec3 ℝ} (hall : ∀ v ∈ vs.rtake n, v = u) : t.mean = u := by
  have hsame (f : Vec3 ℝ → ℝ) : ∀ y ∈ (vs.map f).rtake n, y = f u := by
    intro y hy
    rw [rtake_map] at hy
    obtain ⟨v, hv, rfl⟩ := List.mem_map.1 hy
    rw [hall v hv]
  have hne' (f : Vec3 ℝ → ℝ) : vs.map f ≠ [] := mt List.map_eq_nil_iff.1 hne
  ext
  · exact h.x.mean_of_forall hn (hne' _) (hsame _)
  · exact h.y.mean_of_forall hn (hne' _) (hsame _)
  · exact h.z.mean_of_forall hn (hne' _) (hsame _)

end Recalls

end Triad

/-! ## The field -/

theorem MagneticField.norm_groundVector (f : MagneticField ℝ) :
    f.groundVector.norm = |f.intensity| := by
  have hunit (d i : ℝ) : Vec3.norm (⟨Real.cos i * Real.cos d, Real.cos i * Real.sin d,
      Real.sin i⟩ : Vec3 ℝ) = 1 := by
    have hd := Real.sin_sq_add_cos_sq d
    have hi := Real.sin_sq_add_cos_sq i
    rw [Vec3.norm_eq, Real.sqrt_eq_one, Vec3.dot]
    dsimp only
    linear_combination Real.cos i ^ 2 * hd + hi
  rw [groundVector, Vec3.norm_scale]
  exact (congrArg (|f.intensity| * ·) (hunit _ _)).trans (mul_one _)

theorem Euler.norm_toBody (e : Euler ℝ) (v : Vec3 ℝ) : (e.toBody v).norm = v.norm :=
  e.isRotation_rotation.transpose.norm_apply v

/-! ## The instrument -/

namespace Magnetometer

/-- The magnetometer after an operation. -/
noncomputable def perform (m : Magnetometer ℝ) : InstrumentOperation (Euler ℝ) → Magnetometer ℝ
  | .run angles => m.run angles
  | .reset => m.reset

/-- The magnetometer after a history. -/
noncomputable def after (m : Magnetometer ℝ) (ops : List (InstrumentOperation (Euler ℝ))) :
    Magnetometer ℝ :=
  ops.foldl perform m

/-- A magnetometer without noise shows the mean of a field as it was seen from the last `n` of some
attitudes. -/
structure Shows (m : Magnetometer ℝ) (ground : Vec3 ℝ) (n : ℕ) (attitudes : List (Euler ℝ)) :
    Prop where
  field : m.field = ground
  silent : m.triad.noise.generator = none
  recalls : m.triad.Recalls n (attitudes.map (·.toBody ground))
  value : m.value = m.triad.mean

variable {m : Magnetometer ℝ} {ground : Vec3 ℝ} {n : ℕ} {attitudes : List (Euler ℝ)}

theorem shows_of_build {s : InstrumentSettings ℝ} {field : MagneticField ℝ} {seed : Option UInt64}
    {r : Randomness ℝ} (h : build s field seed r = .ok m) (hsilent : s.noiseVariance ≤ 0) :
    m.Shows field.groundVector (max s.sampleCount.toNat 1) [] := by
  obtain ⟨triad, htriad, rfl⟩ := build_eq_ok h
  have hrecalls := Triad.recalls_of_build htriad
  refine ⟨rfl, ?_, hrecalls, hrecalls.mean_of_eq_nil.symm⟩
  obtain ⟨noise, hnoise, rfl⟩ := Triad.build_eq_ok htriad
  exact Noise.generator_of_build hnoise hsilent

namespace Shows

variable (h : m.Shows ground n attitudes)

include h

theorem reset : m.reset.Shows ground n [] :=
  ⟨h.field, Noise.generator_reset h.silent, h.recalls.reset,
    h.recalls.reset.mean_of_eq_nil.symm⟩

theorem run (hn : 1 ≤ n) (e : Euler ℝ) : (m.run e).Shows ground n (attitudes ++ [e]) := by
  have hread : (m.triad.add (e.toBody m.field)).read =
      ((m.triad.add (e.toBody m.field)).mean, m.triad.add (e.toBody m.field)) :=
    Triad.read_of_silent h.silent
  simp only [Magnetometer.run, hread]
  refine ⟨h.field, h.silent, ?_, rfl⟩
  rw [List.map_append, h.field]
  exact h.recalls.add hn _

theorem norm_value_le (hn : 1 ≤ n) : m.value.norm ≤ ground.norm := by
  rw [h.value]
  by_cases hne : attitudes = []
  · subst hne
    rw [h.recalls.mean_of_eq_nil]
    have hzero : (0 : Vec3 ℝ).norm = 0 := by simp [Vec3.norm_eq, Vec3.zero_dot]
    exact hzero.trans_le (Real.sqrt_nonneg _)
  · refine h.recalls.norm_mean_le hn (mt List.map_eq_nil_iff.1 hne) fun v hv => ?_
    obtain ⟨e, -, rfl⟩ := List.mem_map.1 hv
    exact (e.norm_toBody ground).le

theorem norm_value_of_forall (hn : 1 ≤ n) {e : Euler ℝ} (he : e ∈ attitudes.rtake n)
    (hall : ∀ e' ∈ attitudes.rtake n, e' = e) : m.value.norm = ground.norm := by
  have hne : attitudes ≠ [] := List.ne_nil_of_mem (List.mem_of_mem_drop he)
  have hmean : m.triad.mean = e.toBody ground := by
    refine h.recalls.mean_of_forall hn (mt List.map_eq_nil_iff.1 hne) fun v hv => ?_
    rw [rtake_map] at hv
    obtain ⟨e', he', rfl⟩ := List.mem_map.1 hv
    rw [hall e' he']
  rw [h.value, hmean, e.norm_toBody]

omit h in
theorem after (h : m.Shows ground n []) (hn : 1 ≤ n)
    (ops : List (InstrumentOperation (Euler ℝ))) :
    (m.after ops).Shows ground n (sinceReset ops) :=
  foldl_sinceReset (R := fun m => Shows m ground n)
    (fun _ _ e h => h.run hn e) (fun _ _ h => h.reset) h ops

end Shows

/-- After any history the vector that is shown without noise is no longer than the field is strong.
It is as long as that once there was a tick, if the window is for one sample or the attitude was the
same for all that is in it. -/
theorem strength_bounded {s : InstrumentSettings ℝ} {field : MagneticField ℝ}
    {seed : Option UInt64} {r : Randomness ℝ} {built : Magnetometer ℝ}
    (hbuild : build s field seed r = .ok built) (hsilent : s.noiseVariance ≤ 0) (ops : List (InstrumentOperation (Euler ℝ))) :
    let m := built.after ops
    let recent := (sinceReset ops).rtake (max s.sampleCount.toNat 1)
    m.value.norm ≤ |field.intensity| ∧
      (∀ e ∈ recent, (∀ e' ∈ recent, e' = e) → m.value.norm = |field.intensity|) ∧
      (s.sampleCount.toNat ≤ 1 → sinceReset ops ≠ [] → m.value.norm = |field.intensity|) := by
  intro m recent
  have hn : 1 ≤ max s.sampleCount.toNat 1 := le_max_right _ _
  have hshows : m.Shows field.groundVector (max s.sampleCount.toNat 1) (sinceReset ops) :=
    (shows_of_build hbuild hsilent).after hn ops
  have hsame : ∀ e ∈ recent, (∀ e' ∈ recent, e' = e) → m.value.norm = |field.intensity| :=
    fun e he hall => (hshows.norm_value_of_forall hn he hall).trans field.norm_groundVector
  refine ⟨field.norm_groundVector ▸ hshows.norm_value_le hn, hsame, fun hone hne => ?_⟩
  -- a single attitude is the same throughout
  have hlength : recent.length = 1 := by
    rw [length_rtake, max_eq_right hone]
    exact min_eq_left (List.length_pos_of_ne_nil hne)
  obtain ⟨e, he⟩ := List.length_eq_one_iff.1 hlength
  exact hsame e (he ▸ List.mem_singleton_self e) fun e' he' => List.mem_singleton.1 (he ▸ he')

theorem exists_build (s : InstrumentSettings ℝ) (field : MagneticField ℝ) (seed : Option UInt64)
    (r : Randomness ℝ) : ∃ m, build s field seed r = .ok m :=
  exists_bind_ok (Triad.exists_build s seed r) fun _ => ⟨_, rfl⟩

/-- With room for two samples of a field of negative intensity: the strength is bounded while the
aircraft turns over, and exact after another tick upside down. -/
theorem strength_bounded_overturned :
    let s : InstrumentSettings ℝ := { sampleCount := 2, noiseVariance := 0 }
    let field : MagneticField ℝ := { intensity := -46000, declination := -7.5, inclination := 49.5 }
    let level : Euler ℝ := { roll := 0, pitch := 0, yaw := 0 }
    let inverted : Euler ℝ := { roll := Real.pi, pitch := 0, yaw := 0 }
    let r : Randomness ℝ := .boxMuller fun _ _ => 0
    ∃ built, build s field none r = .ok built ∧
      (built.after [.run level, .run inverted]).value.norm ≤ 46000 ∧
      (built.after [.run level, .run inverted, .run inverted]).value.norm = 46000 := by
  intro s field level inverted r
  obtain ⟨built, hbuild⟩ := exists_build s field none r
  have hintensity : |field.intensity| = 46000 := by norm_num [field]
  obtain ⟨hturning, -, -⟩ := strength_bounded hbuild (le_refl 0) [.run level, .run inverted]
  obtain ⟨-, hsame, -⟩ :=
    strength_bounded hbuild (le_refl 0) [.run level, .run inverted, .run inverted]
  refine ⟨built, hbuild, hturning.trans_eq hintensity, (hsame inverted ?_ ?_).trans hintensity⟩
  · exact List.mem_cons_self
  · rintro e (_ | ⟨_, _ | ⟨_, ⟨⟩⟩⟩) <;> rfl

end Magnetometer

end Multirotor
