import Multirotor.Proofs.Aircraft.Reset

/-!
# Seeds of the noise

There are six noises on a panel: every instrument has one, and the receiver has a second one for the
velocity.  With a seed the instruments count on from it, past the last word to zero, and the second
noise of the receiver takes the word of its first one xor a constant.  The constant is five modulo
eight, so that the lowest three bits of the word move by three or by five
(`Gps.velocitySeed_mod_eight`), and no instrument is further than two from the receiver.  Hence the
six words differ (`Panel.nodup_seedWords`), and since a noise keeps its seed through draws and
resets, those of an aircraft differ at any time.  What a noise draws are the deviates of its seed, in
every start of its generator (`Noise.Follows`).
-/

namespace Multirotor

/-! ## The words -/

/-- The second seed of a receiver is three or five above the first one, modulo eight. -/
theorem Gps.velocitySeed_mod_eight (w : UInt64) :
    (velocitySeed w).toNat % 8 = (w.toNat + 3) % 8 ∨
      (velocitySeed w).toNat % 8 = (w.toNat + 5) % 8 := by
  have hxor : (velocitySeed w).toNat % 8 = w.toNat % 8 ^^^ 5 := by
    rw [velocitySeed, UInt64.toNat_xor]
    exact Nat.xor_mod_two_pow (n := 3)
  have hlow : ∀ r < 8, r ^^^ 5 = (r + 3) % 8 ∨ r ^^^ 5 = (r + 5) % 8 := by decide
  have hr := hlow (w.toNat % 8) (Nat.mod_lt _ (by decide))
  omega

/-- The second seed of a receiver is none of the words within two of the first one. -/
theorem Gps.velocitySeed_ne (w : UInt64) {i : UInt64} (hi : i ≤ 4) :
    velocitySeed (w + 2) ≠ w + i := by
  intro heq
  have hi : i.toNat ≤ 4 := UInt64.le_iff_toNat_le.1 hi
  have hmod := velocitySeed_mod_eight (w + 2)
  rw [heq, UInt64.toNat_add, UInt64.toNat_add] at hmod
  have htwo : (2 : UInt64).toNat = 2 := rfl
  omega

namespace Panel

/-- The words that the noises of a panel start from, in the order of `Panel.noises`. -/
def seedWords (w : UInt64) : List UInt64 :=
  [w, w + 1, w + 2, Gps.velocitySeed (w + 2), w + 3, w + 4]

theorem nodup_seedWords (w : UInt64) : (seedWords w).Nodup := by
  have hwords : seedWords w =
      [0, 1, 2].map (w + ·) ++ Gps.velocitySeed (w + 2) :: [3, 4].map (w + ·) := by
    simp [seedWords]
  have hcounted : ([0, 1, 2, 3, 4].map (w + ·)).Nodup :=
    List.Nodup.map (fun _ _ => (UInt64.add_right_inj w).1) (by decide)
  rw [hwords, List.nodup_middle, ← List.map_append, List.nodup_cons]
  refine ⟨fun hmem => ?_, hcounted⟩
  obtain ⟨i, hi, heq⟩ := List.mem_map.1 hmem
  have hle : ∀ i ∈ ([0, 1, 2, 3, 4] : List UInt64), i ≤ 4 := by simp
  exact Gps.velocitySeed_ne w (hle i hi) heq.symm

end Panel

variable {α : Type} [Scalar α]

/-! ## The noises -/

namespace Noise

theorem seed_of_build {variance : α} {seed : Option UInt64} {r : Randomness α} {n : Noise α}
    (h : build variance seed r = .ok n) : n.seed = seed := by
  obtain ⟨deviation, -, rfl⟩ := build_eq_ok h
  rfl

/-- With a seed the generator of a noise starts from it. -/
theorem generator_eq_start {variance : α} {w : UInt64} {r r' : Randomness α} {n : Noise α}
    (hr : r'.seeded = r.seeded) (h : build variance (some w) r' = .ok n) :
    ∀ g ∈ n.generator, g = .start r g.deviation n.seed := by
  obtain ⟨deviation, -, rfl⟩ := build_eq_ok h
  intro g hg
  obtain ⟨d, -, rfl⟩ := Option.mem_map.1 hg
  simp only [Generator.start, hr]

/-- The deviates of the noise are those of its seed, after this start and every later one. -/
def Follows {α : Type} (n : Noise α) (r : Randomness α) : Prop :=
  ∀ g ∈ n.generator, ∃ w, n.seed = some w ∧ ∀ i, g.starts i = r.seeded w

variable {n : Noise α} {r : Randomness α}

omit [Scalar α] in
theorem follows_of_start {w : UInt64} (hseed : n.seed = some w)
    (h : ∀ g ∈ n.generator, g = .start r g.deviation n.seed) : n.Follows r := by
  intro g hg
  refine ⟨w, hseed, fun i => ?_⟩
  rw [h g hg, hseed]
  rfl

theorem Follows.perturb (h : n.Follows r) (x : α) : (n.perturb x).2.Follows r := by
  cases hg : n.generator with
  | none => simpa only [Noise.perturb, hg] using h
  | some g =>
    simp only [Noise.perturb, hg]
    rintro _ ⟨⟩
    exact h g hg

omit [Scalar α] in
theorem Follows.reset (h : n.Follows r) : n.reset.Follows r := by
  intro _ hreset
  have hreset : _ ∈ n.generator.map Generator.restart := hreset
  obtain ⟨g, hg, rfl⟩ := Option.mem_map.1 hreset
  obtain ⟨w, hseed, hstarts⟩ := h g hg
  exact ⟨w, hseed, fun i => hstarts (i + 1)⟩

end Noise

namespace Triad

variable {t : Triad α} {r : Randomness α}

theorem seed_of_build {s : InstrumentSettings α} {seed : Option UInt64}
    (h : build s seed r = .ok t) : t.noise.seed = seed := by
  obtain ⟨noise, hn, rfl⟩ := build_eq_ok h
  exact Noise.seed_of_build hn

theorem generator_eq_start {s : InstrumentSettings α} {w : UInt64} {r' : Randomness α}
    (hr : r'.seeded = r.seeded) (h : build s (some w) r' = .ok t) :
    ∀ g ∈ t.noise.generator, g = .start r g.deviation t.noise.seed := by
  obtain ⟨noise, hn, rfl⟩ := build_eq_ok h
  exact Noise.generator_eq_start hr hn

theorem follows_read (h : t.noise.Follows r) : t.read.2.noise.Follows r :=
  ((h.perturb _).perturb _).perturb _

end Triad

namespace Panel

/-- The noises of the instruments in order; the receiver has one for the position and one for the
velocity. -/
def noises {α : Type} (p : Panel α) : List (Noise α) :=
  [p.accelerometer.triad.noise, p.gyroscope.triad.noise, p.gps.position.noise,
    p.gps.velocity.noise, p.barometer.noise, p.magnetometer.triad.noise]

/-- The seeds of the noises. -/
def seeds {α : Type} (p : Panel α) : List (Option UInt64) := p.noises.map Noise.seed

section Build

variable {s : PanelSettings α} {reference : GeoReference α} {field : MagneticField α}
  {dt gravity : α} {w : UInt64} {r : Randomness α} {p : Panel α}
  (h : build s reference field dt gravity (some w) r = .ok p)

include h

theorem seeds_of_build : p.seeds = (seedWords w).map some := by
  obtain ⟨_, _, _, _, _, _, ta, tg, tp, tv, nb, tm, rfl⟩ := exists_noisy_of_build h
  simp only [seeds, noises, List.map_cons, List.map_nil, Triad.seed_of_build ta,
    Triad.seed_of_build tg, Triad.seed_of_build tp, Triad.seed_of_build tv,
    Noise.seed_of_build nb, Triad.seed_of_build tm]
  rfl

/-- The generators of a panel that was just built have started from the seeds. -/
theorem generator_eq_start :
    ∀ n ∈ p.noises, ∀ g ∈ n.generator, g = .start r g.deviation n.seed := by
  obtain ⟨_, _, _, _, _, _, ta, tg, tp, tv, nb, tm, rfl⟩ := exists_noisy_of_build h
  simp only [noises, List.forall_mem_cons]
  exact ⟨Triad.generator_eq_start rfl ta, Triad.generator_eq_start rfl tg,
    Triad.generator_eq_start rfl tp, Triad.generator_eq_start rfl tv,
    Noise.generator_eq_start rfl nb, Triad.generator_eq_start rfl tm, nofun⟩

theorem follows_of_build : ∀ n ∈ p.noises, n.Follows r := by
  intro n hn
  have hseed : n.seed ∈ p.seeds := List.mem_map_of_mem hn
  rw [seeds_of_build h] at hseed
  obtain ⟨w', -, hseed⟩ := List.mem_map.1 hseed
  exact Noise.follows_of_start hseed.symm (generator_eq_start h n hn)

end Build

theorem seeds_reset (p : Panel α) : p.reset.seeds = p.seeds := rfl

theorem seeds_run (p : Panel α) (o : Observation α) : (p.run o).seeds = p.seeds := by
  rw [← seeds_reset, reset_run, seeds_reset]

variable {p : Panel α} {r : Randomness α} (h : ∀ n ∈ p.noises, n.Follows r)

include h

theorem follows_run (o : Observation α) : ∀ n ∈ (p.run o).noises, n.Follows r := by
  simp only [noises, List.forall_mem_cons] at h ⊢
  obtain ⟨ha, hg, hp, hv, hb, hm, -⟩ := h
  exact ⟨Triad.follows_read ha, Triad.follows_read hg, Triad.follows_read hp,
    Triad.follows_read hv, hb.perturb _, Triad.follows_read hm, nofun⟩

theorem follows_reset : ∀ n ∈ p.reset.noises, n.Follows r := by
  simp only [noises, List.forall_mem_cons] at h ⊢
  obtain ⟨ha, hg, hp, hv, hb, hm, -⟩ := h
  exact ⟨ha.reset, hg.reset, hp.reset, hv.reset, hb.reset, hm.reset, nofun⟩

end Panel

/-! ## The aircraft -/

namespace Aircraft

theorem seeds_after (a : Aircraft α) (ops : List (Operation α)) :
    (a.after ops).panel.seeds = a.panel.seeds :=
  panel_after (P := fun p => p.seeds = a.panel.seeds)
    (fun p o h => (p.seeds_run o).trans h) (fun p h => p.seeds_reset.trans h) rfl ops

/-- A panel that is built with a seed starts its six noises from six different words, which are the
same for all settings.  An aircraft keeps them whatever is done to it, and each of its noises draws
the deviates of its own word only. -/
theorem seeds_distinct (w : UInt64) (r : Randomness α) :
    (Panel.seedWords w).Nodup ∧
    (∀ (s : PanelSettings α) (reference : GeoReference α) (field : MagneticField α)
      (dt gravity : α) (p : Panel α),
      Panel.build s reference field dt gravity (some w) r = .ok p →
        p.seeds = (Panel.seedWords w).map some ∧
          ∀ n ∈ p.noises, ∀ g ∈ n.generator, g = .start r g.deviation n.seed) ∧
    ∀ (c : Configuration α) (a : Aircraft α) (events : List (Event α)),
      c.noiseSeed = some w → build c r = .ok (a, events) → ∀ ops,
        (a.after ops).panel.seeds = (Panel.seedWords w).map some ∧
          ∀ n ∈ (a.after ops).panel.noises, n.Follows r := by
  refine ⟨Panel.nodup_seedWords w, fun s reference field dt gravity p h => ?_,
    fun c a events hseed h ops => ?_⟩
  · exact ⟨Panel.seeds_of_build h, Panel.generator_eq_start h⟩
  · have hpanel := (assembly_of_build h).panel
    rw [hseed] at hpanel
    refine ⟨by rw [seeds_after, Panel.seeds_of_build hpanel], ?_⟩
    exact panel_after (P := fun p => ∀ n ∈ p.noises, n.Follows r)
      (fun p o hp => Panel.follows_run hp o) (fun p hp => Panel.follows_reset hp)
      (Panel.follows_of_build hpanel) ops

/-- The noisy standard aircraft with the last word but one for a seed: counting on passes zero
between the gyroscope and the receiver. -/
theorem seeds_distinct_wrapped :
    let i : InstrumentSettings ℝ := { sampleCount := 2, noiseVariance := 0.5 }
    let instruments : PanelSettings ℝ :=
      { accelerometer := i, gyroscope := i, gps := i, barometer := i, magnetometer := i }
    let c : Configuration ℝ :=
      { Configuration.standard with instruments, noiseSeed := some 0xfffffffffffffffe }
    let tick : Operation ℝ := .run { time := 0, useWeather := false, trace := false } .none
    let words : List UInt64 :=
      [0xfffffffffffffffe, 0xffffffffffffffff, 0, 0x9e3779b97f4a7c15, 1, 2]
    let r : Randomness ℝ := .boxMuller fun noise start => (noise + 6 * start).toUInt64
    words.Nodup ∧ ∃ a events, build c r = .ok (a, events) ∧
      (∀ n ∈ a.panel.noises, ∀ g ∈ n.generator, g = .start r g.deviation n.seed) ∧
      (a.after [tick, .reset, tick, tick]).panel.seeds = words.map some ∧
      ∀ n ∈ (a.after [tick, .reset, tick, tick]).panel.noises, n.Follows r := by
  intro i instruments c tick words r
  obtain ⟨⟨a, events⟩, h⟩ :=
    exists_build_standard (p := instruments) rfl (some 0xfffffffffffffffe) r
  obtain ⟨hnodup, hpanel, haircraft⟩ := seeds_distinct 0xfffffffffffffffe r
  have hwords : Panel.seedWords 0xfffffffffffffffe = words := by decide
  rw [hwords] at hnodup haircraft
  exact ⟨hnodup, a, events, h, (hpanel _ _ _ _ _ _ (assembly_of_build h).panel).2,
    haircraft c a events rfl h _⟩

end Aircraft

end Multirotor
