import Multirotor.Proofs.Air.Pressure
import Multirotor.Proofs.Aircraft.Buildable
import Multirotor.Proofs.Instrument.Recent

/-!
# The two pressures of a barometer

A barometer shows a pressure that it computed in the last tick, and the rotors feel one that is
computed from the window and the weather when it is asked for.  Both go by the recent heights and the
latest weather since the reset (`Barometer.Remembers`), with noise as without it; without it what is
shown stays that of the window and the weather (`Barometer.Shows`), so that the two pressures are one
in two units (`Barometer.pressures_agree`).
-/

namespace Multirotor

open InstrumentOperation

/-- What a barometer is fed in one tick. -/
structure BarometerTick (α : Type) where
  position : Vec3 α
  weather : Option (Weather α)

namespace Barometer

/-! ## What is remembered -/

section Memory

variable {α : Type} [Scalar α]

/-- The barometer after an operation. -/
def perform (b : Barometer α) : InstrumentOperation (BarometerTick α) → Barometer α
  | .run tick => b.run tick.position tick.weather
  | .reset => b.reset

/-- The barometer after a history. -/
def after (b : Barometer α) (ops : List (InstrumentOperation (BarometerTick α))) : Barometer α :=
  ops.foldl perform b

/-- The weather of the last tick, the standard one before the first. -/
def latestWeather (ticks : List (BarometerTick α)) : Weather α :=
  (ticks.getLast?.bind (·.weather)).getD .standard

/-- The heights of some ticks. -/
def heights (ticks : List (BarometerTick α)) : List α := ticks.map (-·.position.z)

/-- A barometer goes by the last `n` heights and the latest weather of the ticks since its reset. -/
structure Remembers (b : Barometer α) (reference : GeoReference α) (n : ℕ)
    (ticks : List (BarometerTick α)) : Prop where
  reference : b.reference = reference
  height : b.height.Recalls n (heights ticks)
  weather : b.weather = latestWeather ticks

variable {b c : Barometer α} {reference : GeoReference α} {n : ℕ} {ticks : List (BarometerTick α)}

theorem remembers_of_build {s : InstrumentSettings α} {seed : Option UInt64} {r : Randomness α}
    (h : build s reference seed r = .ok b) :
    b.Remembers reference (max s.sampleCount.toNat 1) [] := by
  obtain ⟨noise, -, rfl⟩ := build_eq_ok h
  exact ⟨rfl, SampleWindow.recalls_empty _, rfl⟩

theorem Remembers.reset (h : b.Remembers reference n ticks) :
    b.reset.Remembers reference n [] :=
  ⟨h.reference, h.height.reset, rfl⟩

theorem Remembers.run (h : b.Remembers reference n ticks) (hn : 1 ≤ n) (tick : BarometerTick α) :
    (b.run tick.position tick.weather).Remembers reference n (ticks ++ [tick]) := by
  refine ⟨h.reference, ?_, ?_⟩
  · rw [heights, List.map_append]
    exact h.height.add hn _
  · rw [latestWeather, List.getLast?_concat]
    rfl

theorem Remembers.after (h : b.Remembers reference n []) (hn : 1 ≤ n)
    (ops : List (InstrumentOperation (BarometerTick α))) :
    (b.after ops).Remembers reference n (sinceReset ops) :=
  foldl_sinceReset (R := fun b => Remembers b reference n)
    (fun _ _ tick h => h.run hn tick) (fun _ _ h => h.reset) h ops

/-- The pressure that the rotors feel depends on what is remembered only. -/
theorem Remembers.pressureAtm_eq (hb : b.Remembers reference n ticks)
    (hc : c.Remembers reference n ticks) : b.pressureAtm = c.pressureAtm := by
  have hmean : b.height.mean = c.height.mean := by
    unfold SampleWindow.mean
    rw [hb.height.samples, hc.height.samples]
  rw [pressureAtm, pressureAtm, hmean, hb.reference, hc.reference, hb.weather, hc.weather]

end Memory

/-! ## What is shown without noise -/

/-- A barometer without noise that shows the height and the pressure of what it remembers. -/
structure Shows (b : Barometer ℝ) : Prop where
  silent : b.noise.generator = none
  value : b.value = sample b.reference b.weather b.height.mean

variable {b c : Barometer ℝ}

theorem shows_of_build {s : InstrumentSettings ℝ} {reference : GeoReference ℝ}
    {seed : Option UInt64} {r : Randomness ℝ} (h : build s reference seed r = .ok b)
    (hsilent : s.noiseVariance ≤ 0) : b.Shows := by
  obtain ⟨noise, hnoise, rfl⟩ := build_eq_ok h
  exact ⟨Noise.generator_of_build hnoise hsilent, rfl⟩

theorem Shows.reset (h : b.Shows) : b.reset.Shows := ⟨Noise.generator_reset h.silent, rfl⟩

theorem Shows.run (h : b.Shows) (position : Vec3 ℝ) (weather : Option (Weather ℝ)) :
    (b.run position weather).Shows := by
  simp only [Barometer.run, Noise.perturb_of_silent h.silent]
  exact ⟨h.silent, rfl⟩

theorem Shows.after (h : b.Shows) (ops : List (InstrumentOperation (BarometerTick ℝ))) :
    (b.after ops).Shows :=
  foldl_sinceReset (R := fun b _ => Shows b) (fun _ _ tick h => h.run tick.position tick.weather)
    (fun _ _ h => h.reset) h ops

theorem Shows.absolutePressure_eq (h : b.Shows) :
    b.value.absolutePressure = 1013.25 * b.pressureAtm := by
  rw [h.value, pressureAtm, ← Atmosphere.pressure_mul]
  rfl

/-- Without noise the rotors feel the pressure at the height that is shown. -/
theorem Shows.pressureAtm_eq (h : b.Shows) :
    b.pressureAtm = Atmosphere.pressure b.weather.seaLevelAtm
      (b.reference.altitude + b.value.height) b.weather.temperature := by
  rw [h.value]
  rfl

/-- The height that is shown is the mean of the recent heights. -/
theorem Shows.height_eq (h : b.Shows) {reference : GeoReference ℝ} {n : ℕ} (hn : 1 ≤ n)
    {ticks : List (BarometerTick ℝ)} (hmemory : b.Remembers reference n ticks) :
    (ticks = [] → b.value.height = 0) ∧
      (ticks ≠ [] → b.value.height =
        ((heights ticks).rtake n).sum / ((heights ticks).rtake n).length) := by
  have hheight : b.value.height = b.height.mean := by rw [h.value]; rfl
  rw [hheight]
  constructor
  · rintro rfl
    exact hmemory.height.mean_of_eq_nil
  · intro hne
    exact hmemory.height.mean_of_ne_nil hn (mt List.map_eq_nil_iff.1 hne)

/-- A barometer without noise, after any history. -/
def IsSilent (b : Barometer ℝ) : Prop :=
  ∃ (s : InstrumentSettings ℝ) (reference : GeoReference ℝ) (seed : Option UInt64)
    (r : Randomness ℝ) (built : Barometer ℝ)
    (ops : List (InstrumentOperation (BarometerTick ℝ))),
    s.noiseVariance ≤ 0 ∧ build s reference seed r = .ok built ∧ built.after ops = b

theorem IsSilent.shows (h : b.IsSilent) : b.Shows := by
  obtain ⟨s, reference, seed, r, built, ops, hsilent, hbuild, rfl⟩ := h
  exact (shows_of_build hbuild hsilent).after ops

/-- Higher up there is less pressure, both shown and felt. -/
theorem Shows.pressure_le (hb : b.Shows) (hc : c.Shows) (hsea : 0 ≤ b.weather.seaLevelAtm)
    (hwarm : -273.15 < b.weather.temperature)
    (hsame : c.weather.seaLevelAtm = b.weather.seaLevelAtm)
    (hsame' : c.weather.temperature = b.weather.temperature)
    (hheight : b.reference.altitude + b.value.height ≤ c.reference.altitude + c.value.height) :
    c.value.absolutePressure ≤ b.value.absolutePressure ∧ c.pressureAtm ≤ b.pressureAtm := by
  have hle : c.pressureAtm ≤ b.pressureAtm := by
    rw [hb.pressureAtm_eq, hc.pressureAtm_eq, hsame, hsame']
    exact Atmosphere.pressure_antitone hwarm hsea hheight
  refine ⟨?_, hle⟩
  rw [hb.absolutePressure_eq, hc.absolutePressure_eq]
  gcongr

/-- Along every history the pressure that is shown without noise is the one that the rotors feel, in
another unit; it is a pressure at the mean of the recent heights, and the rotors do not feel noise. -/
theorem pressures_agree {s : InstrumentSettings ℝ} {reference : GeoReference ℝ}
    {seed : Option UInt64} {r : Randomness ℝ} {built : Barometer ℝ}
    (hbuild : build s reference seed r = .ok built) (hsilent : s.noiseVariance ≤ 0) (ops : List (InstrumentOperation (BarometerTick ℝ))) :
    let b := built.after ops
    let ticks := sinceReset ops
    let recent := (heights ticks).rtake (max s.sampleCount.toNat 1)
    let altitude := reference.altitude + b.value.height
    b.value.absolutePressure = 1013.25 * b.pressureAtm ∧
      b.weather = latestWeather ticks ∧
      ((ticks = [] → b.value.height = 0) ∧
        (ticks ≠ [] → b.value.height = recent.sum / recent.length)) ∧
      (0 ≤ b.weather.seaLevelAtm → -273.15 < b.weather.temperature →
        (0 ≤ b.value.absolutePressure ∧ 0 ≤ b.pressureAtm) ∧
          (0 ≤ altitude → b.value.absolutePressure ≤ 1013.25 * b.weather.seaLevelAtm ∧
            b.pressureAtm ≤ b.weather.seaLevelAtm) ∧
          ∀ c : Barometer ℝ, c.IsSilent → c.weather.seaLevelAtm = b.weather.seaLevelAtm →
            c.weather.temperature = b.weather.temperature →
            altitude ≤ c.reference.altitude + c.value.height →
            c.value.absolutePressure ≤ b.value.absolutePressure ∧
              c.pressureAtm ≤ b.pressureAtm) ∧
      ∀ (variance : ℝ) (seed' : Option UInt64) (r' : Randomness ℝ) (noisy : Barometer ℝ),
        build { s with noiseVariance := variance } reference seed' r' = .ok noisy →
        (noisy.after ops).pressureAtm = b.pressureAtm := by
  intro b ticks recent altitude
  have hn : 1 ≤ max s.sampleCount.toNat 1 := le_max_right _ _
  have hmemory : b.Remembers reference (max s.sampleCount.toNat 1) ticks :=
    (remembers_of_build hbuild).after hn ops
  have hshows : b.Shows := (shows_of_build hbuild hsilent).after ops
  have haltitude : altitude = b.reference.altitude + b.value.height := by
    rw [hmemory.reference]
  refine ⟨hshows.absolutePressure_eq, hmemory.weather, hshows.height_eq hn hmemory,
    fun hsea hwarm => ⟨?_, ?_, ?_⟩, fun variance seed' r' noisy hnoisy => ?_⟩
  · have hnonneg : 0 ≤ b.pressureAtm := Atmosphere.pressure_nonneg hsea _ _
    rw [hshows.absolutePressure_eq]
    exact ⟨by positivity, hnonneg⟩
  · intro hhigh
    have hle : b.pressureAtm ≤ b.weather.seaLevelAtm := by
      rw [hshows.pressureAtm_eq, ← haltitude]
      exact Atmosphere.pressure_le hwarm hsea hhigh
    rw [hshows.absolutePressure_eq]
    exact ⟨by gcongr, hle⟩
  · intro c hc hsame hsame' hheight
    exact hshows.pressure_le hc.shows hsea hwarm hsame hsame' (haltitude ▸ hheight)
  · exact ((remembers_of_build hnoisy).after hn ops).pressureAtm_eq hmemory

theorem exists_build (s : InstrumentSettings ℝ) (reference : GeoReference ℝ)
    (seed : Option UInt64) (r : Randomness ℝ) : ∃ b, build s reference seed r = .ok b :=
  exists_bind_ok (Noise.exists_build _ _ _) fun _ => ⟨_, rfl⟩

/-- Two of three heights since the reset count, in the cold: the mean of 200 and 400 meters, with
less pressure a hundred meters higher and with any noise the same for the rotors. -/
theorem pressures_agree_climbing :
    let s : InstrumentSettings ℝ := { sampleCount := 2, noiseVariance := 0 }
    let reference : GeoReference ℝ := { latitude := 0, longitude := 0, altitude := 100 }
    let cold : Weather ℝ := { temperature := -10, wind := 0, seaLevelAtm := 0.95, surface := none }
    let up (height : ℝ) (weather : Option (Weather ℝ)) : InstrumentOperation (BarometerTick ℝ) :=
      .run { position := .vertical (-height), weather }
    let ops := [up 50 none, .reset, up 100 none, up 200 none, up 400 (some cold)]
    let r : Randomness ℝ := .boxMuller fun _ _ => 0
    ∃ built noisy : Barometer ℝ, build s reference none r = .ok built ∧
      build { s with noiseVariance := (4 : ℝ) } reference (some 7) r = .ok noisy ∧
      let b := built.after ops
      b.value.absolutePressure = 1013.25 * b.pressureAtm ∧ b.value.height = 300 ∧
        0 ≤ b.pressureAtm ∧ b.pressureAtm ≤ 0.95 ∧
        (built.after (ops ++ [up 600 (some cold)])).pressureAtm ≤ b.pressureAtm ∧
        (noisy.after ops).pressureAtm = b.pressureAtm := by
  intro s reference cold up ops r
  obtain ⟨built, hbuild⟩ := exists_build s reference none r
  obtain ⟨noisy, hnoisy⟩ := exists_build { s with noiseVariance := (4 : ℝ) } reference (some 7) r
  have hsilent : s.noiseVariance ≤ 0 := le_refl 0
  refine ⟨built, noisy, hbuild, hnoisy, ?_⟩
  intro b
  obtain ⟨hagree, hweather, ⟨-, hheight⟩, hphysical, hnoise⟩ := pressures_agree hbuild hsilent ops
  obtain ⟨-, hweather', ⟨-, hheight'⟩, -, -⟩ :=
    pressures_agree hbuild hsilent (ops ++ [up 600 (some cold)])
  have hcold : b.weather = cold := hweather
  have hlow : b.value.height = 300 := by
    rw [hheight (List.cons_ne_nil _ _)]
    have hrecent : (heights (sinceReset ops)).rtake 2 = [- -200, - -400] := rfl
    refine (congrArg (fun xs : List ℝ => xs.sum / xs.length) hrecent).trans ?_
    norm_num
  have hhigh : (built.after (ops ++ [up 600 (some cold)])).value.height = 500 := by
    rw [hheight' (List.cons_ne_nil _ _)]
    have hrecent : (heights (sinceReset (ops ++ [up 600 (some cold)]))).rtake 2 =
        [- -400, - -600] := rfl
    refine (congrArg (fun xs : List ℝ => xs.sum / xs.length) hrecent).trans ?_
    norm_num
  have haltitude : reference.altitude = 100 := rfl
  obtain ⟨⟨-, hnonneg⟩, hle, hantitone⟩ := hphysical (by rw [hcold]; norm_num [cold])
    (by rw [hcold]; norm_num [cold])
  refine ⟨hagree, hlow, hnonneg, ?_, ?_, hnoise 4 (some 7) r noisy hnoisy⟩
  · have hsea := (hle (by rw [hlow, haltitude]; norm_num)).2
    rwa [hcold] at hsea
  · refine (hantitone _ ⟨s, reference, none, r, built, _, hsilent, hbuild, rfl⟩ ?_ ?_ ?_).2
    · rw [hweather', hcold]
      rfl
    · rw [hweather', hcold]
      rfl
    · have hreference := ((remembers_of_build hbuild).after (le_max_right _ _)
        (ops ++ [up 600 (some cold)])).reference
      rw [hreference, hlow, hhigh]
      norm_num

end Barometer

end Multirotor
