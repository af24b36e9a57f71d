import Multirotor.Proofs.Aircraft.Buildable

/-!
# Noise and the physics

Noise enters what the instruments show and nothing else.  `withoutNoise` switches the noise of every
part off and blanks what the instruments show; a tick maps parts that agree without their noise to
parts that agree without their noise, because what the rotors, the body and the autopilot are given
in it, the pressure of the barometer among it, is computed from the windows.  By induction two
aircraft whose configurations differ in the noise only go through the same history.
-/

namespace Multirotor

variable {α : Type} [Scalar α]

/-! ## Instruments without their noise -/

/-- The settings with the noise switched off. -/
def PanelSettings.withoutNoise (s : PanelSettings α) : PanelSettings α :=
  { accelerometer := { s.accelerometer with noiseVariance := 0 }
    gyroscope := { s.gyroscope with noiseVariance := 0 }
    gps := { s.gps with noiseVariance := 0 }
    barometer := { s.barometer with noiseVariance := 0 }
    magnetometer := { s.magnetometer with noiseVariance := 0 } }

def Triad.withoutNoise (t : Triad α) : Triad α := { t with noise := .off }

namespace Panel

/-- The instruments with the noise switched off and showing nothing. -/
def withoutNoise (p : Panel α) : Panel α :=
  { accelerometer :=
      { p.accelerometer with triad := p.accelerometer.triad.withoutNoise, value := 0 }
    gyroscope := { triad := p.gyroscope.triad.withoutNoise, value := 0 }
    gps :=
      { p.gps with
        position := p.gps.position.withoutNoise
        velocity := p.gps.velocity.withoutNoise
        value := Gps.sample p.gps.reference 0 0 }
    barometer :=
      { p.barometer with
        noise := .off
        value := Barometer.sample p.barometer.reference .standard 0 }
    magnetometer :=
      { p.magnetometer with triad := p.magnetometer.triad.withoutNoise, value := 0 } }

theorem withoutNoise_run (p : Panel α) (o : Observation α) :
    (p.run o).withoutNoise = (p.withoutNoise.run o).withoutNoise := rfl

theorem withoutNoise_reset (p : Panel α) :
    p.reset.withoutNoise = p.withoutNoise.reset.withoutNoise := rfl

/-- The rotors feel the pressure without the noise of the barometer. -/
theorem pressureAtm_withoutNoise (p : Panel α) : p.withoutNoise.pressureAtm = p.pressureAtm := rfl

end Panel

/-- Instruments without noise before the first tick. -/
def Panel.silent (s : PanelSettings α) (reference : GeoReference α) (field : MagneticField α)
    (dt gravity : α) : Panel α :=
  let triad (i : InstrumentSettings α) : Triad α := { windows := .all i.window, noise := .off }
  { accelerometer := { triad := triad s.accelerometer, dt, gravity, previous := none, value := 0 }
    gyroscope := { triad := triad s.gyroscope, value := 0 }
    gps :=
      { reference
        position := triad s.gps
        velocity := triad s.gps
        value := Gps.sample reference 0 0 }
    barometer :=
      { reference
        height := s.barometer.window
        noise := .off
        weather := .standard
        value := Barometer.sample reference .standard 0 }
    magnetometer := { field := field.groundVector, triad := triad s.magnetometer, value := 0 } }

theorem Triad.withoutNoise_of_build {s : InstrumentSettings α} {seed : Option UInt64}
    {r : Randomness α} {t : Triad α} (h : build s seed r = .ok t) :
    t.withoutNoise = { windows := .all s.window, noise := .off } := by
  obtain ⟨noise, -, rfl⟩ := Triad.build_eq_ok h
  rfl

theorem Panel.withoutNoise_of_build {s : PanelSettings α} {reference : GeoReference α}
    {field : MagneticField α} {dt gravity : α} {seed : Option UInt64} {r : Randomness α}
    {p : Panel α} (h : build s reference field dt gravity seed r = .ok p) :
    p.withoutNoise = silent s reference field dt gravity := by
  obtain ⟨_, _, _, _, _, _, ta, tg, tp, tv, -, tm, rfl⟩ := exists_noisy_of_build h
  simp only [withoutNoise, silent, Triad.withoutNoise_of_build ta, Triad.withoutNoise_of_build tg,
    Triad.withoutNoise_of_build tp, Triad.withoutNoise_of_build tv, Triad.withoutNoise_of_build tm]

/-! ## Aircraft without their noise -/

def Configuration.withoutNoise (c : Configuration α) : Configuration α :=
  { c with instruments := c.instruments.withoutNoise, noiseSeed := none }

namespace Aircraft

def withoutNoise (a : Aircraft α) : Aircraft α :=
  { a with config := a.config.withoutNoise, panel := a.panel.withoutNoise }

end Aircraft

/-- What came of an operation, without the noise of the aircraft. -/
def Run.withoutNoise (r : Run α) : Run α := { r with aircraft := r.aircraft.withoutNoise }

namespace Aircraft

theorem withoutNoise_fly (a : Aircraft α) (ctx : TickContext) (input : AircraftInput α) :
    (a.fly ctx input).1.withoutNoise = (a.withoutNoise.fly ctx input).1.withoutNoise := by
  rw [fly_fst, fly_fst]
  simp only [withoutNoise]
  rw [Panel.withoutNoise_run a.panel]
  rfl

theorem events_fly_withoutNoise (a : Aircraft α) (ctx : TickContext) (input : AircraftInput α) :
    (a.withoutNoise.fly ctx input).2 = (a.fly ctx input).2 := by
  rw [fly_snd, fly_snd]
  rfl

theorem withoutNoise_reset (a : Aircraft α) :
    a.reset.1.withoutNoise = a.withoutNoise.reset.1.withoutNoise := by
  simp only [withoutNoise, reset]
  rw [Panel.withoutNoise_reset a.panel]
  rfl

theorem takeDuties_withoutNoise (a : Aircraft α) (duties : Option (List α)) :
    a.withoutNoise.takeDuties duties = (a.takeDuties duties).map withoutNoise := by
  cases duties with
  | none => rfl
  | some ds =>
    by_cases hlen : ds.length = a.rotors.length <;> cases hd : a.config.directDuties <;>
      simp [takeDuties, withoutNoise, Configuration.withoutNoise, hlen, hd, Except.map]

/-- An operation tells the same with and without noise and leaves the same but for the noise. -/
theorem withoutNoise_perform (a : Aircraft α) (op : Operation α) :
    (a.perform op).withoutNoise = (a.withoutNoise.perform op).withoutNoise := by
  cases op with
  | run ctx input =>
    have htake := a.takeDuties_withoutNoise input.duties
    cases ht : a.takeDuties input.duties with
    | error f =>
      rw [ht] at htake
      simp only [perform, run, ht, htake, Except.map]
      rfl
    | ok ready =>
      rw [ht] at htake
      simp only [perform, run, ht, htake, Except.map, Run.withoutNoise, events_fly_withoutNoise]
      rw [withoutNoise_fly]
  | setCollision c => rfl
  | body op => rfl
  | reset =>
    simp only [perform, Run.withoutNoise]
    rw [withoutNoise_reset]
    rfl

theorem perform_congr {x y : Aircraft α} (h : x.withoutNoise = y.withoutNoise) (op : Operation α) :
    (x.perform op).withoutNoise = (y.perform op).withoutNoise := by
  rw [withoutNoise_perform, h, ← withoutNoise_perform]

theorem withoutNoise_after {x y : Aircraft α} (h : x.withoutNoise = y.withoutNoise)
    (ops : List (Operation α)) : (x.after ops).withoutNoise = (y.after ops).withoutNoise := by
  induction ops generalizing x y with
  | nil => exact h
  | cons op ops ih => exact ih (congrArg Run.aircraft (perform_congr h op))

theorem withoutNoise_history {x y : Aircraft α} (h : x.withoutNoise = y.withoutNoise)
    (ops : List (Operation α)) :
    (x.history ops).map Run.withoutNoise = (y.history ops).map Run.withoutNoise := by
  induction ops generalizing x y with
  | nil => rfl
  | cons op ops ih =>
    have hop := perform_congr h op
    rw [history, history, List.map_cons, List.map_cons, hop,
      ih (congrArg Run.aircraft hop)]

/-! ## Two configurations -/

/-- Configurations that differ in the noise only build aircraft that differ in the noise only. -/
theorem Assembly.withoutNoise_eq {c d : Configuration α} {r r' : Randomness α} {x y : Aircraft α}
    (hx : Assembly c r x) (hy : Assembly d r' y) (h : c.withoutNoise = d.withoutNoise) :
    x.withoutNoise = y.withoutNoise := by
  have same {β : Type} (f : Configuration α → β) : f c.withoutNoise = f d.withoutNoise :=
    congrArg f h
  have hlen : x.rotors.length = y.rotors.length :=
    hx.rotorCount.trans ((same fun c => c.rotorCount.toNat).trans hy.rotorCount.symm)
  have hrotor : buildRotor c = buildRotor d := same buildRotor
  have hrotors : x.rotors = y.rotors := List.ext_getElem hlen fun i hi hi' => by
    have hxi := hx.rotors _ (List.getElem_mem hi)
    rw [hrotor, hy.rotors _ (List.getElem_mem hi')] at hxi
    exact (Except.ok.inj hxi).symm
  have hbody : x.body = y.body :=
    Except.ok.inj (hx.body.symm.trans ((same fun c => RigidBody.atRest c.airframe c.bodyOptions
      c.attitude c.startPosition c.startAttitude c.timeStep).trans hy.body))
  have hmixer : x.autopilot.mixer = y.autopilot.mixer :=
    Except.ok.inj (hx.mixer.symm.trans
      ((same fun c => Mixer.build c.mounts c.rotor c.dutyCurve).trans hy.mixer))
  have hpanel : x.panel.withoutNoise = y.panel.withoutNoise := by
    rw [Panel.withoutNoise_of_build hx.panel, Panel.withoutNoise_of_build hy.panel]
    exact same fun c => Panel.silent c.instruments c.reference c.magneticField c.timeStep c.gravity
  have hpropulsion : x.propulsion = y.propulsion := by
    rw [hx.propulsion, hy.propulsion]
    exact same fun c => Propulsion.idle c.mounts c.rotor
  have hautopilot : x.autopilot = y.autopilot := by
    rw [hx.autopilot, hy.autopilot, hmixer]
    exact same fun c =>
      Autopilot.start c.mode c.pilot c.airframe c.maxThrust y.autopilot.mixer c.timeStep
  have hmicros : x.dtMicros = y.dtMicros := by
    rw [hx.dtMicros, hy.dtMicros]
    exact same Configuration.timeStepMicros
  simp only [Aircraft.withoutNoise, hx.config, hy.config, h, hmicros, hrotors, hpropulsion, hbody,
    hpanel, hautopilot, hx.duties, hy.duties, hx.demand, hy.demand, hx.time, hy.time, hx.ticks,
    hy.ticks, hx.lastInput, hy.lastInput]

/-- Two aircraft whose configurations differ in the noise only agree in everything but the noise and
what the instruments show, after any operations, and tell the same in every one of them, wherever the
deviates of either come from. -/
theorem noise_unfelt {c d : Configuration α} {r r' : Randomness α} {x y : Aircraft α}
    {xs ys : List (Event α)} (hx : build c r = .ok (x, xs)) (hy : build d r' = .ok (y, ys))
    (h : c.withoutNoise = d.withoutNoise) (ops : List (Operation α)) :
    let x' := x.after ops
    let y' := y.after ops
    x'.body = y'.body ∧ x'.rotors = y'.rotors ∧ x'.propulsion = y'.propulsion ∧
      x'.duties = y'.duties ∧ x'.demand = y'.demand ∧ x'.time = y'.time ∧ x'.ticks = y'.ticks ∧
      x'.panel.pressureAtm = y'.panel.pressureAtm ∧ x'.withoutNoise = y'.withoutNoise ∧
      (x.history ops).map Run.withoutNoise = (y.history ops).map Run.withoutNoise := by
  have hxy := (assembly_of_build hx).withoutNoise_eq (assembly_of_build hy) h
  have hafter := withoutNoise_after hxy ops
  have same {β : Type} (f : Aircraft α → β) := congrArg f hafter
  have hpressure : (x.after ops).panel.pressureAtm = (y.after ops).panel.pressureAtm := by
    rw [← Panel.pressureAtm_withoutNoise, ← (y.after ops).panel.pressureAtm_withoutNoise]
    exact same fun a => a.panel.pressureAtm
  exact ⟨same body, same rotors, same propulsion, same duties, same demand, same time, same ticks,
    hpressure, hafter, withoutNoise_history hxy ops⟩

/-- Noise of other strength and another seed in every instrument of the standard aircraft. -/
theorem noise_unfelt_standard :
    let settings (variance : ℝ) : PanelSettings ℝ :=
      let i : InstrumentSettings ℝ := { sampleCount := 3, noiseVariance := variance }
      { accelerometer := i, gyroscope := i, gps := i, barometer := i, magnetometer := i }
    let c (variance : ℝ) (seed : Option UInt64) : Configuration ℝ :=
      { Configuration.standard with instruments := settings variance, noiseSeed := seed }
    let tick : Operation ℝ := .run { time := 0, useWeather := true, trace := true } .none
    let ops := [tick, .setCollision (.bounce
      { contact := 0, relativeVelocity := ⟨0, 0, 1⟩, restitution := 0.5 }), tick, .reset, tick]
    let r : Randomness ℝ := .boxMuller fun noise start => (noise + 6 * start).toUInt64
    ∃ x xs y ys, build (c 0.01 (some 21)) r = .ok (x, xs) ∧ build (c 4 none) r = .ok (y, ys) ∧
      (x.after ops).body = (y.after ops).body ∧
      (x.after ops).panel.pressureAtm = (y.after ops).panel.pressureAtm := by
  intro settings c tick ops r
  obtain ⟨⟨x, xs⟩, hx⟩ := exists_build_standard (p := settings 0.01) rfl (some 21) r
  obtain ⟨⟨y, ys⟩, hy⟩ := exists_build_standard (p := settings 4) rfl none r
  obtain ⟨hbody, -, -, -, -, -, -, hpressure, -⟩ := noise_unfelt hx hy rfl ops
  exact ⟨x, xs, y, ys, hx, hy, hbody, hpressure⟩

end Aircraft

end Multirotor
