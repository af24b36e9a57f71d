import Multirotor.Proofs.Aircraft.Operation

/-!
# What a built aircraft consists of

`Aircraft.build` checks the configuration and then builds the parts one after the other, any of
which may be refused.  `Aircraft.Assembly` lists what every part is when all of that succeeds;
`assembly_of_build` reads it off the building once, so that no other proof opens `Aircraft.build`.
-/

namespace Multirotor

/-! ## Sequences of steps that may be refused -/

theorem bind_eq_ok {ε β γ : Type} {x : Except ε β} {f : β → Except ε γ} {c : γ} :
    (x >>= f) = .ok c ↔ ∃ b, x = .ok b ∧ f b = .ok c := by
  cases x <;> simp [bind, Except.bind]

theorem mapM_const_eq_ok {ε β : Type} {x : Except ε β} {n : Nat} {bs : List β}
    (h : ((List.replicate n ()).mapM fun _ => x) = .ok bs) :
    bs.length = n ∧ ∀ b ∈ bs, x = .ok b := by
  induction n generalizing bs with
  | zero =>
    obtain rfl : [] = bs := by simpa [pure, Except.pure] using h
    simp
  | succ n ih =>
    rw [List.replicate_succ, List.mapM_cons] at h
    obtain ⟨b, hb, h⟩ := bind_eq_ok.1 h
    obtain ⟨rest, hrest, h⟩ := bind_eq_ok.1 h
    obtain rfl : b :: rest = bs := by simpa [pure, Except.pure] using h
    obtain ⟨hlen, hmem⟩ := ih hrest
    refine ⟨by rw [List.length_cons, hlen], fun b' hb' => ?_⟩
    rcases List.mem_cons.1 hb' with rfl | hb'
    · exact hb
    · exact hmem b' hb'

variable {α : Type} [Scalar α]

/-! ## The parts -/

theorem Rotor.lag_eq_ok {c : RotorConstants α} {maxSpeed timeConstant dt : α} {r : Rotor α}
    (h : Rotor.lag c maxSpeed timeConstant dt = .ok r) :
    c.check = .ok () ∧ ¬ timeConstant ≤ 0 ∧
      r = .atRest (.lag (maxSpeed / timeConstant) timeConstant) c maxSpeed dt := by
  obtain ⟨⟨⟩, hc, h⟩ := bind_eq_ok.1 h
  split_ifs at h with ht
  exact ⟨hc, ht, (Except.ok.inj h).symm⟩

theorem Rotor.onBattery_eq_ok {c : RotorConstants α} {source : Battery α} {maxSpeed dt : α}
    {r : Rotor α} (h : Rotor.onBattery c source maxSpeed dt = .ok r) :
    c.check = .ok () ∧ r = .atRest (.battery source) c maxSpeed dt := by
  obtain ⟨⟨⟩, hc, h⟩ := bind_eq_ok.1 h
  exact ⟨hc, (Except.ok.inj h).symm⟩

/-- A rotor of an aircraft is at rest before the first tick. -/
theorem Aircraft.buildRotor_eq_ok {c : Configuration α} {r : Rotor α}
    (h : Aircraft.buildRotor c = .ok r) :
    ∃ drive, r = .atRest drive c.rotor c.maxRotorSpeed c.timeStep := by
  unfold Aircraft.buildRotor at h
  split at h
  · exact ⟨_, (Rotor.onBattery_eq_ok h).2⟩
  · exact ⟨_, (Rotor.lag_eq_ok h).2.2⟩

/-- The noise of an instrument is at its first start. -/
theorem Noise.build_eq_ok {variance : α} {seed : Option UInt64} {r : Randomness α} {n : Noise α}
    (h : Noise.build variance seed r = .ok n) :
    ∃ deviation, Noise.deviation? variance = .ok deviation ∧
      n = { variance, seed, generator := deviation.map fun d => .start r d seed } := by
  obtain ⟨deviation, hd, h⟩ := bind_eq_ok.1 h
  exact ⟨deviation, hd, (Except.ok.inj h).symm⟩

theorem Noise.deviation?_of_not_pos {variance : α} (h : ¬ 0 < variance) :
    Noise.deviation? variance = .ok none :=
  if_neg h

theorem Triad.build_eq_ok {s : InstrumentSettings α} {seed : Option UInt64} {r : Randomness α}
    {t : Triad α} (h : Triad.build s seed r = .ok t) :
    ∃ noise, Noise.build s.noiseVariance seed r = .ok noise ∧
      t = { windows := .all s.window, noise } := by
  obtain ⟨noise, hn, h⟩ := bind_eq_ok.1 h
  exact ⟨noise, hn, (Except.ok.inj h).symm⟩

theorem Accelerometer.build_eq_ok {s : InstrumentSettings α} {dt gravity : α}
    {seed : Option UInt64} {r : Randomness α} {m : Accelerometer α}
    (h : Accelerometer.build s dt gravity seed r = .ok m) :
    ∃ triad, Triad.build s seed r = .ok triad ∧
      m = { triad, dt, gravity, previous := none, value := 0 } := by
  obtain ⟨triad, ht, h⟩ := bind_eq_ok.1 h
  exact ⟨triad, ht, (Except.ok.inj h).symm⟩

theorem Gyroscope.build_eq_ok {s : InstrumentSettings α} {seed : Option UInt64}
    {r : Randomness α} {m : Gyroscope α} (h : Gyroscope.build s seed r = .ok m) :
    ∃ triad, Triad.build s seed r = .ok triad ∧ m = { triad, value := 0 } := by
  obtain ⟨triad, ht, h⟩ := bind_eq_ok.1 h
  exact ⟨triad, ht, (Except.ok.inj h).symm⟩

theorem Gps.build_eq_ok {s : InstrumentSettings α} {reference : GeoReference α}
    {seed : Option UInt64} {r : Randomness α} {m : Gps α}
    (h : Gps.build s reference seed r = .ok m) :
    ∃ position velocity, Triad.build s seed r = .ok position ∧
      Triad.build s (seed.map Gps.velocitySeed) (r.drop 1) = .ok velocity ∧
      m = { reference, position, velocity, value := Gps.sample reference 0 0 } := by
  obtain ⟨position, hp, h⟩ := bind_eq_ok.1 h
  obtain ⟨velocity, hv, h⟩ := bind_eq_ok.1 h
  exact ⟨position, velocity, hp, hv, (Except.ok.inj h).symm⟩

theorem Barometer.build_eq_ok {s : InstrumentSettings α} {reference : GeoReference α}
    {seed : Option UInt64} {r : Randomness α} {m : Barometer α}
    (h : Barometer.build s reference seed r = .ok m) :
    ∃ noise, Noise.build s.noiseVariance seed r = .ok noise ∧
      m = { reference
            height := s.window
            noise
            weather := .standard
            value := Barometer.sample reference .standard 0 } := by
  obtain ⟨noise, hn, h⟩ := bind_eq_ok.1 h
  exact ⟨noise, hn, (Except.ok.inj h).symm⟩

theorem Magnetometer.build_eq_ok {s : InstrumentSettings α} {field : MagneticField α}
    {seed : Option UInt64} {r : Randomness α} {m : Magnetometer α}
    (h : Magnetometer.build s field seed r = .ok m) :
    ∃ triad, Triad.build s seed r = .ok triad ∧
      m = { field := field.groundVector, triad, value := 0 } := by
  obtain ⟨triad, ht, h⟩ := bind_eq_ok.1 h
  exact ⟨triad, ht, (Except.ok.inj h).symm⟩

/-- Every instrument of a panel is built with its own seed. -/
theorem Panel.build_eq_ok {s : PanelSettings α} {reference : GeoReference α}
    {field : MagneticField α} {dt gravity : α} {seed : Option UInt64} {r : Randomness α}
    {p : Panel α} (h : Panel.build s reference field dt gravity seed r = .ok p) :
    s.check = .ok () ∧
      Accelerometer.build s.accelerometer dt gravity (seedFor seed .accelerometer) r =
        .ok p.accelerometer ∧
      Gyroscope.build s.gyroscope (seedFor seed .gyroscope) (r.drop 1) = .ok p.gyroscope ∧
      Gps.build s.gps reference (seedFor seed .gps) (r.drop 2) = .ok p.gps ∧
      Barometer.build s.barometer reference (seedFor seed .barometer) (r.drop 4) =
        .ok p.barometer ∧
      Magnetometer.build s.magnetometer field (seedFor seed .magnetometer) (r.drop 5) =
        .ok p.magnetometer := by
  obtain ⟨⟨⟩, hs, h⟩ := bind_eq_ok.1 h
  obtain ⟨_, ha, h⟩ := bind_eq_ok.1 h
  obtain ⟨_, hg, h⟩ := bind_eq_ok.1 h
  obtain ⟨_, hp, h⟩ := bind_eq_ok.1 h
  obtain ⟨_, hb, h⟩ := bind_eq_ok.1 h
  obtain ⟨_, hm, h⟩ := bind_eq_ok.1 h
  obtain rfl := Except.ok.inj h
  exact ⟨hs, ha, hg, hp, hb, hm⟩

/-- The settings determine a panel before the first tick, its noises apart. -/
theorem Panel.exists_noisy_of_build {s : PanelSettings α} {reference : GeoReference α}
    {field : MagneticField α} {dt gravity : α} {seed : Option UInt64} {r : Randomness α}
    {p : Panel α} (h : Panel.build s reference field dt gravity seed r = .ok p) :
    ∃ acceleration turn position velocity height magnetism,
      Triad.build s.accelerometer (seedFor seed .accelerometer) r = .ok acceleration ∧
      Triad.build s.gyroscope (seedFor seed .gyroscope) (r.drop 1) = .ok turn ∧
      Triad.build s.gps (seedFor seed .gps) (r.drop 2) = .ok position ∧
      Triad.build s.gps ((seedFor seed .gps).map Gps.velocitySeed) ((r.drop 2).drop 1) =
        .ok velocity ∧
      Noise.build s.barometer.noiseVariance (seedFor seed .barometer) (r.drop 4) = .ok height ∧
      Triad.build s.magnetometer (seedFor seed .magnetometer) (r.drop 5) = .ok magnetism ∧
      p =
        { accelerometer := { triad := acceleration, dt, gravity, previous := none, value := 0 }
          gyroscope := { triad := turn, value := 0 }
          gps := { reference, position, velocity, value := Gps.sample reference 0 0 }
          barometer :=
            { reference
              height := s.barometer.window
              noise := height
              weather := .standard
              value := Barometer.sample reference .standard 0 }
          magnetometer := { field := field.groundVector, triad := magnetism, value := 0 } } := by
  obtain ⟨-, ha, hg, hp, hb, hm⟩ := Panel.build_eq_ok h
  obtain ⟨accelerometer, gyroscope, gps, barometer, magnetometer⟩ := p
  obtain ⟨acceleration, ta, rfl⟩ := Accelerometer.build_eq_ok ha
  obtain ⟨turn, tg, rfl⟩ := Gyroscope.build_eq_ok hg
  obtain ⟨position, velocity, tp, tv, rfl⟩ := Gps.build_eq_ok hp
  obtain ⟨height, nb, rfl⟩ := Barometer.build_eq_ok hb
  obtain ⟨magnetism, tm, rfl⟩ := Magnetometer.build_eq_ok hm
  exact ⟨acceleration, turn, position, velocity, height, magnetism, ta, tg, tp, tv, nb, tm, rfl⟩

/-! ## The whole -/

namespace Aircraft

/-- The parts of an aircraft that was built from `c` and has not run. -/
structure Assembly (c : Configuration α) (r : Randomness α) (a : Aircraft α) : Prop where
  check : c.check = .ok ()
  config : a.config = c
  dtMicros : a.dtMicros = c.timeStepMicros
  rotorCount : a.rotors.length = c.rotorCount.toNat
  rotors : ∀ r ∈ a.rotors, buildRotor c = .ok r
  propulsion : a.propulsion = .idle c.mounts c.rotor
  body : RigidBody.atRest c.airframe c.bodyOptions c.attitude c.startPosition c.startAttitude
    c.timeStep = .ok a.body
  panel : Panel.build c.instruments c.reference c.magneticField c.timeStep c.gravity
    c.noiseSeed r = .ok a.panel
  mixer : Mixer.build c.mounts c.rotor c.dutyCurve = .ok a.autopilot.mixer
  autopilot : a.autopilot =
    .start c.mode c.pilot c.airframe c.maxThrust a.autopilot.mixer c.timeStep
  duties : a.duties = List.replicate a.rotors.length 0
  demand : a.demand = 0
  time : a.time = 0
  ticks : a.ticks = 0
  lastInput : a.lastInput = none

theorem assembly_of_build {c : Configuration α} {r : Randomness α} {a : Aircraft α}
    {events : List (Event α)} (h : build c r = .ok (a, events)) : Assembly c r a := by
  unfold build at h
  obtain ⟨⟨⟩, hc, h⟩ := bind_eq_ok.1 h
  obtain ⟨rotors, hr, h⟩ := bind_eq_ok.1 h
  obtain ⟨body, hb, h⟩ := bind_eq_ok.1 h
  obtain ⟨panel, hp, h⟩ := bind_eq_ok.1 h
  obtain ⟨mixer, hm, h⟩ := bind_eq_ok.1 h
  obtain ⟨hlen, hr⟩ := mapM_const_eq_ok hr
  obtain rfl := congrArg Prod.fst (Except.ok.inj h)
  exact
    { check := hc, config := rfl, dtMicros := rfl, rotorCount := hlen, rotors := hr
      propulsion := rfl, body := hb, panel := hp, mixer := hm, autopilot := rfl, duties := rfl
      demand := rfl, time := rfl, ticks := rfl, lastInput := rfl }

/-- The deviates matter to nothing but the instruments. -/
theorem build_of_panel {c : Configuration α} {r r' : Randomness α} {a : Aircraft α}
    {events : List (Event α)} {panel : Panel α} (h : build c r = .ok (a, events))
    (hpanel : Panel.build c.instruments c.reference c.magneticField c.timeStep c.gravity
      c.noiseSeed r' = .ok panel) :
    build c r' = .ok ({ a with panel }, events) := by
  unfold build at h ⊢
  obtain ⟨check, hc, h⟩ := bind_eq_ok.1 h
  obtain ⟨rotors, hr, h⟩ := bind_eq_ok.1 h
  obtain ⟨body, hb, h⟩ := bind_eq_ok.1 h
  obtain ⟨_, -, h⟩ := bind_eq_ok.1 h
  obtain ⟨mixer, hm, h⟩ := bind_eq_ok.1 h
  obtain ⟨rfl, rfl⟩ := Prod.ext_iff.1 (Except.ok.inj h)
  exact bind_eq_ok.2 ⟨check, hc, bind_eq_ok.2 ⟨rotors, hr, bind_eq_ok.2 ⟨body, hb,
    bind_eq_ok.2 ⟨panel, hpanel, bind_eq_ok.2 ⟨mixer, hm, rfl⟩⟩⟩⟩⟩

section Parts

variable {c : Configuration α} {r : Randomness α} {a : Aircraft α}

theorem Assembly.checkRotorCount (h : Assembly c r a) :
    c.mounts.length = c.rotorCount.toNat := by
  obtain ⟨⟨⟩, -, h⟩ := bind_eq_ok.1 h.check
  obtain ⟨⟨⟩, -, h⟩ := bind_eq_ok.1 h
  obtain ⟨⟨⟩, -, h⟩ := bind_eq_ok.1 h
  obtain ⟨⟨⟩, -, h⟩ := bind_eq_ok.1 h
  obtain ⟨⟨⟩, h, -⟩ := bind_eq_ok.1 h
  unfold Configuration.checkRotorCount at h
  split_ifs at h with hlen
  exact hlen

theorem Assembly.aligned (h : Assembly c r a) : a.Aligned where
  duties := by simp [h.duties]
  mounts := by rw [h.propulsion, h.rotorCount, ← h.checkRotorCount]; rfl
  mixer := by rw [Mixer.rotorCount_eq h.mixer, h.rotorCount, h.checkRotorCount]

end Parts

end Aircraft

end Multirotor
