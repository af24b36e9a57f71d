import Multirotor.Proofs.Aircraft.Bookkeeping

/-!
# Inputs without effect

Switches of the configuration and of the tick decide which inputs an aircraft heeds.  For everything
that it is given, `heeded` is the same with all that is switched off replaced by something fixed: the
weather, the surface in it, the pose of an operator, the content of a collision, the target or the
values of the duties.  An aircraft keeps some of its inputs as they are given, and `Aircraft.heeded`
is the aircraft without the unheeded part of these.  `heeded_perform` compares an operation with the
heeded operation on the heeded aircraft, so that two histories with the same heeded operations are
one history but for what is merely kept.
-/

namespace Multirotor

variable {α : Type} [Scalar α]

/-! ## What is heeded of an input -/

/-- A surface matters to a configuration with ground effect. -/
def Weather.heeded (c : Configuration α) (w : Weather α) : Weather α :=
  if c.groundEffect.isSome then w else { w with surface := none }

/-- Collisions matter to a configuration that detects them. -/
def Collision.heeded (c : Configuration α) (k : Collision α) : Collision α :=
  if c.collisionDetection then k
  else .bounce { contact := 0, relativeVelocity := 0, restitution := 0 }

/-- Poses of an operator matter to a configuration with manual control. -/
def BodyInput.heeded (c : Configuration α) (input : BodyInput α) : BodyInput α :=
  { input with
    manual := if c.manualControl then input.manual else none
    weather := input.weather.map (·.heeded c) }

def BodyOperation.heeded (c : Configuration α) : BodyOperation α → BodyOperation α
  | setCollision k => setCollision (k.heeded c)
  | run input => run (input.heeded c)
  | op => op

omit [Scalar α] in
/-- The target is of the kind that a mode follows. -/
def Target.isFor : ControlMode → Target α → Bool
  | .scripted, t => t.waypoint?.isSome
  | .radio _, t => t.command?.isSome

/-- Duties matter to a configuration without an autopilot, otherwise only their number; targets
matter to one with an autopilot, if they are of its mode; weather matters if both the configuration
and the tick use it. -/
def AircraftInput.heeded (c : Configuration α) (ctx : TickContext) (input : AircraftInput α) :
    AircraftInput α :=
  { duties := if c.directDuties then input.duties else input.duties.map fun ds => ds.map fun _ => 0
    manual := if c.manualControl then input.manual else .none
    weather := if c.useWeather && ctx.useWeather then input.weather.map (·.heeded c) else .none
    target := if c.directDuties then .none else input.target.filter (·.isFor c.mode)
    wrench := input.wrench }

/-- The context of a heeded tick: neither the clock nor the trace matters. -/
def TickContext.neutral : TickContext := { time := 0, useWeather := true, trace := false }

def Operation.heeded (c : Configuration α) : Operation α → Operation α
  | run ctx input => run .neutral (input.heeded c ctx)
  | setCollision k => setCollision (k.heeded c)
  | body op => body (op.heeded c)
  | reset => reset

/-! ## What is kept of an input -/

/-- The body without the content of a queued collision that will not be detected. -/
def RigidBody.heeded (c : Configuration α) (b : RigidBody α) : RigidBody α :=
  { b with pending := b.pending.map (·.heeded c) }

/-- The barometer without a surface in the weather that it keeps, if the aircraft uses any. -/
def Barometer.heeded (c : Configuration α) (m : Barometer α) : Barometer α :=
  { m with weather := if c.useWeather then m.weather.heeded c else m.weather }

def Panel.heeded (c : Configuration α) (p : Panel α) : Panel α :=
  { p with barometer := p.barometer.heeded c }

/-- The aircraft without its last input and without what the body and the instruments keep unheeded. -/
def Aircraft.heeded (c : Configuration α) (a : Aircraft α) : Aircraft α :=
  { a with body := a.body.heeded c, panel := a.panel.heeded c, lastInput := none }

variable {c : Configuration α}

/-! ## Weather and collisions -/

omit [Scalar α] in
@[simp] theorem Weather.heeded_heeded (w : Weather α) : (w.heeded c).heeded c = w.heeded c := by
  unfold heeded
  split_ifs <;> rfl

@[simp] theorem Weather.heeded_standard : (standard : Weather α).heeded c = standard := by
  unfold heeded
  split_ifs <;> rfl

theorem Weather.heeded_getD (w : Option (Weather α)) :
    (w.map (·.heeded c)).getD .standard = (w.getD .standard).heeded c := by
  cases w with
  | none => exact heeded_standard.symm
  | some w => rfl

omit [Scalar α] in
@[simp] theorem Weather.wind_heeded (w : Weather α) : (w.heeded c).wind = w.wind := by
  unfold heeded
  split_ifs <;> rfl

@[simp] theorem Collision.heeded_heeded (k : Collision α) : (k.heeded c).heeded c = k.heeded c := by
  unfold heeded
  split_ifs <;> rfl

/-! ## The body -/

namespace RigidBody

variable {b : RigidBody α}

@[simp] theorem heeded_heeded (b : RigidBody α) : (b.heeded c).heeded c = b.heeded c := by
  cases b with
  | mk _ _ _ _ _ _ _ _ _ _ pending => cases pending <;> simp [heeded]

theorem surfaceForce_heeded (h : b.options.groundEffect = c.groundEffect) (w : Weather α)
    (thrust : α) : b.surfaceForce (w.heeded c) thrust = b.surfaceForce w thrust := by
  unfold surfaceForce Weather.heeded
  rw [h]
  cases c.groundEffect with
  | none => rfl
  | some effect => rfl

theorem integrate_heeded (h : b.options.groundEffect = c.groundEffect) (input : BodyInput α) :
    b.integrate (input.heeded c) = b.integrate input := by
  have hforces : b.forces ((input.weather.map (·.heeded c)).getD .standard) input.wrench.thrust =
      b.forces (input.weather.getD .standard) input.wrench.thrust := by
    simp only [forces, Weather.heeded_getD, Weather.wind_heeded, surfaceForce_heeded h]
  simp only [integrate, BodyInput.heeded, hforces]

theorem hit_heeded (h : b.options.collisionDetection = c.collisionDetection)
    (k : Option (Collision α)) : b.hit (k.map (·.heeded c)) = b.hit k := by
  cases k with
  | none => rfl
  | some k =>
    simp only [hit, Option.map_some, Collision.heeded, h]
    split_ifs <;> rfl

/-- A tick of the body depends on what is heeded, and keeps nothing else. -/
theorem run_heeded (h : b.options = c.bodyOptions) (input : BodyInput α) :
    ((b.heeded c).run (input.heeded c)).1 = (b.run input).1 := by
  have hplacement : (b.heeded c).placement (input.heeded c) = b.placement input := by
    have hmanual : b.options.manualControl = c.manualControl := by rw [h]; rfl
    simp only [placement, heeded, BodyInput.heeded, hmanual]
    split_ifs <;> rfl
  cases hp : b.placement input with
  | some pose =>
    rw [run_of_placement hp, run_of_placement (hplacement.trans hp)]
    rfl
  | none =>
    have hgroundEffect : b.released.options.groundEffect = c.groundEffect :=
      congrArg BodyOptions.groundEffect h
    have hoptions : (b.released.integrate input).held.options = c.bodyOptions :=
      (options_eq_of_reset ((reset_held _).trans (reset_integrate b.released input))).trans h
    have hdetection := congrArg BodyOptions.collisionDetection hoptions
    rw [run_of_free hp, run_of_free (hplacement.trans hp)]
    change (((b.released.integrate (input.heeded c)).held).hit
      (b.pending.map (·.heeded c))).1.confined.1 = _
    rw [integrate_heeded hgroundEffect, hit_heeded hdetection]

/-- An operation on the body and the heeded one leave the same but for what is kept unheeded. -/
theorem heeded_perform (h : b.options = c.bodyOptions) (op : BodyOperation α) :
    (b.perform op).1.heeded c = ((b.heeded c).perform (op.heeded c)).1.heeded c := by
  cases op with
  | setCollision k => simp [perform, BodyOperation.heeded, setCollision, heeded]
  | run input =>
    simp only [perform, BodyOperation.heeded]
    rw [run_heeded h]
  | forceRestore =>
    have hrestore : (b.heeded c).forceRestore = b.forceRestore.heeded c := by
      simp only [forceRestore, heeded]
      cases b.options.bounds <;> rfl
    simp only [perform, BodyOperation.heeded, hrestore, heeded_heeded]
  | reset => rfl
  | setPosition p => exact (heeded_heeded (b.setPosition p)).symm
  | setAngles e => exact (heeded_heeded (b.setAngles e)).symm
  | setGroundVelocity v => exact (heeded_heeded (b.setGroundVelocity v)).symm
  | setAngularVelocity w => exact (heeded_heeded (b.setAngularVelocity w)).symm

end RigidBody

/-! ## The instruments -/

theorem Barometer.sample_heeded (r : GeoReference α) (w : Weather α) (height : α) :
    sample r (w.heeded c) height = sample r w height := by
  unfold Weather.heeded
  split_ifs <;> rfl

namespace Panel

@[simp] theorem pressureAtm_heeded (p : Panel α) : (p.heeded c).pressureAtm = p.pressureAtm := by
  simp only [pressureAtm, heeded, Barometer.heeded, Barometer.pressureAtm, Weather.heeded]
  split_ifs <;> rfl

omit [Scalar α] in
@[simp] theorem heeded_heeded (p : Panel α) : (p.heeded c).heeded c = p.heeded c := by
  simp only [heeded, Barometer.heeded]
  split_ifs <;> simp only [Weather.heeded_heeded]

/-- A panel that sees weather only where the aircraft uses it. -/
theorem heeded_run (p : Panel α) {o : Observation α} (ho : c.useWeather = false → o.weather = none) :
    (p.run o).heeded c =
      ((p.heeded c).run { o with weather := o.weather.map (·.heeded c) }).heeded c := by
  simp only [run, heeded, Barometer.heeded, Barometer.run, Weather.heeded_getD,
    Barometer.sample_heeded]
  cases huse : c.useWeather with
  | true => simp only [if_true, Weather.heeded_heeded]
  | false =>
    rw [ho huse]
    simp only [Option.getD_none, Weather.heeded_standard]

end Panel

/-! ## The autopilot -/

/-- The autopilot does not see the weather, and follows targets of its own mode only. -/
theorem Autopilot.run_heeded (a : Autopilot α) (o : Observation α) (w : Option (Weather α))
    (target : Option (Target α)) :
    a.run { o with weather := w } (target.filter (·.isFor a.mode)) = a.run o target := by
  have hguide : a.guide { o with weather := w } (target.filter (·.isFor a.mode)) =
      a.guide o target := by
    cases target with
    | none => cases h : a.mode <;> simp only [guide, h] <;> rfl
    | some t =>
      cases h : a.mode <;> cases t <;> simp only [guide, h] <;> rfl
  simp only [run, hguide]

/-! ## The aircraft -/

namespace Aircraft

variable {r : Randomness α} {a : Aircraft α} {ctx : TickContext} {input : AircraftInput α}

theorem heeded_heeded (a : Aircraft α) : (a.heeded c).heeded c = a.heeded c := by
  simp only [heeded, RigidBody.heeded_heeded, Panel.heeded_heeded]

theorem takeDuties_heeded (h : a.config = c) :
    (a.heeded c).takeDuties (input.heeded c ctx).duties =
      (a.takeDuties input.duties).map (·.heeded c) := by
  cases hd : input.duties with
  | none => simp [takeDuties, AircraftInput.heeded, hd, Except.map]
  | some ds =>
    by_cases hlen : ds.length = a.rotors.length <;> cases hdirect : c.directDuties <;>
      simp [takeDuties, AircraftInput.heeded, heeded, h, hd, hlen, hdirect, Except.map]

theorem effectiveWeather_heeded (h : a.config = c) :
    (a.heeded c).effectiveWeather .neutral (input.heeded c ctx) =
      (a.effectiveWeather ctx input).map (·.heeded c) := by
  subst h
  simp only [effectiveWeather, heeded, AircraftInput.heeded, TickContext.neutral, Bool.and_true]
  cases a.config.useWeather <;> cases ctx.useWeather <;> rfl

theorem spinRotors_heeded (w : Option (Weather α)) :
    (a.heeded c).spinRotors (w.map (·.heeded c)) = (a.spinRotors w).heeded c := by
  simp only [spinRotors, heeded, Panel.pressureAtm_heeded, Option.isSome_map]

theorem bodyInput_heeded (h : a.config = c) :
    (a.heeded c).bodyInput .neutral (input.heeded c ctx) = (a.bodyInput ctx input).heeded c := by
  simp only [bodyInput, effectiveWeather_heeded h, spinRotors_heeded]
  rfl

theorem observed_heeded (h : a.config = c) (hbody : a.body.options = c.bodyOptions) :
    (a.heeded c).observed .neutral (input.heeded c ctx) =
      { a.observed ctx input with
        weather := (a.effectiveWeather ctx input).map (·.heeded c) } := by
  have hrun : ((a.heeded c).body.run ((a.bodyInput ctx input).heeded c)).1 =
      (a.body.run (a.bodyInput ctx input)).1 := RigidBody.run_heeded hbody _
  simp only [observed, bodyInput_heeded h, effectiveWeather_heeded h, hrun]
  rfl

theorem heeded_fly (hb : a.BuiltFrom c r) :
    (a.fly ctx input).1.heeded c =
      ((a.heeded c).fly .neutral (input.heeded c ctx)).1.heeded c := by
  have hconfig := hb.config
  have hbody := hb.body.2
  have hmode : a.autopilot.mode = c.mode := congrArg (·.mode) hb.autopilot
  have hrun : ((a.heeded c).body.run ((a.bodyInput ctx input).heeded c)).1 =
      (a.body.run (a.bodyInput ctx input)).1 := RigidBody.run_heeded hbody _
  have hsteered (hd : c.directDuties = false) :
      (a.heeded c).steered .neutral (input.heeded c ctx) = a.steered ctx input := by
    have htarget : (input.heeded c ctx).target = input.target.filter (·.isFor a.autopilot.mode) := by
      simp only [AircraftInput.heeded, hd, hmode]
      rfl
    rw [steered, htarget, observed_heeded hconfig hbody]
    exact a.autopilot.run_heeded _ _ _
  have hpanel : (a.panel.run (a.observed ctx input)).heeded c =
      ((a.heeded c).panel.run ((a.heeded c).observed .neutral (input.heeded c ctx))).heeded c := by
    have hunused (huse : c.useWeather = false) : (a.observed ctx input).weather = none := by
      change a.effectiveWeather ctx input = none
      rw [effectiveWeather, hconfig, huse]
      rfl
    rw [observed_heeded hconfig hbody]
    exact Panel.heeded_run _ hunused
  have hsteer {β : Type} (f : ControlOutput α × Autopilot α → β) (kept : β) :
      (if a.config.directDuties then kept else f (a.steered ctx input)) =
        if (a.heeded c).config.directDuties then kept
        else f ((a.heeded c).steered .neutral (input.heeded c ctx)) := by
    change _ = if a.config.directDuties then _ else _
    split_ifs with hd
    · rfl
    · rw [hsteered (hconfig ▸ Bool.eq_false_iff.2 hd)]
  rw [fly_fst, fly_fst]
  simp only [effectiveWeather_heeded hconfig, bodyInput_heeded hconfig, spinRotors_heeded]
  exact Aircraft.ext rfl rfl rfl rfl (congrArg (·.heeded c) hrun.symm) hpanel
    (hsteer (·.2) a.autopilot) (hsteer (·.1.duties) a.duties) (hsteer (·.1.demand) a.demand)
    rfl rfl rfl

/-- An operation and the heeded one on the heeded aircraft leave the same but for what is kept
unheeded. -/
theorem heeded_perform (hb : a.BuiltFrom c r) (op : Operation α) :
    (a.perform op).aircraft.heeded c =
      ((a.heeded c).perform (op.heeded c)).aircraft.heeded c := by
  cases op with
  | run ctx input =>
    have htake : (a.heeded c).takeDuties (input.heeded c ctx).duties =
        (a.takeDuties input.duties).map (·.heeded c) := takeDuties_heeded hb.config
    cases ht : a.takeDuties input.duties with
    | error f =>
      rw [ht] at htake
      simp only [perform, run, Operation.heeded, ht, htake, Except.map]
      exact (heeded_heeded a).symm
    | ok ready =>
      rw [ht] at htake
      have hready : ready.BuiltFrom c r := by
        obtain rfl := takeDuties_eq_ok ht
        exact hb
      simp only [perform, run, Operation.heeded, ht, htake, Except.map]
      exact heeded_fly hready
  | setCollision k =>
    exact Aircraft.ext rfl rfl rfl rfl (a.body.heeded_perform hb.body.2 (.setCollision k))
      a.panel.heeded_heeded.symm rfl rfl rfl rfl rfl rfl
  | body op =>
    exact Aircraft.ext rfl rfl rfl rfl (a.body.heeded_perform hb.body.2 op)
      a.panel.heeded_heeded.symm rfl rfl rfl rfl rfl rfl
  | reset => rfl

/-- Operations of which the same is heeded leave the same but for what is kept unheeded. -/
theorem heeded_after {x y : Aircraft α} (hx : x.BuiltFrom c r) (hy : y.BuiltFrom c r)
    (hxa : x.Aligned) (hya : y.Aligned) (h : x.heeded c = y.heeded c) {xs ys : List (Operation α)}
    (hops : xs.map (Operation.heeded c) = ys.map (Operation.heeded c)) :
    (x.after xs).heeded c = (y.after ys).heeded c := by
  induction xs generalizing x y ys with
  | nil =>
    obtain rfl := List.map_eq_nil_iff.1 hops.symm
    exact h
  | cons op xs ih =>
    obtain ⟨op', ys, rfl, hop, hops⟩ := List.map_eq_cons_iff.1 hops.symm
    have hperform : (x.perform op).aircraft.heeded c = (y.perform op').aircraft.heeded c := by
      rw [heeded_perform hx, h, ← hop, ← heeded_perform hy]
    exact ih (hx.perform hxa op) (hy.perform hya op') (aligned_perform hxa op)
      (aligned_perform hya op') hperform hops.symm

/-! ## Two histories -/

/-- Two aircraft agree in everything but the last input, the content of a queued collision that will
not be detected, and, where weather is used, a surface without effect in the weather that the
barometer keeps. -/
structure Alike (c : Configuration α) (x y : Aircraft α) : Prop where
  config : x.config = y.config
  dtMicros : x.dtMicros = y.dtMicros
  rotors : x.rotors = y.rotors
  propulsion : x.propulsion = y.propulsion
  body : x.body.withPending none = y.body.withPending none
  waiting : x.body.pending.isSome = y.body.pending.isSome
  detected : c.collisionDetection = true → x.body = y.body
  accelerometer : x.panel.accelerometer = y.panel.accelerometer
  gyroscope : x.panel.gyroscope = y.panel.gyroscope
  gps : x.panel.gps = y.panel.gps
  barometer : x.panel.barometer.heeded c = y.panel.barometer.heeded c
  surface : c.groundEffect.isSome = true ∨ c.useWeather = false →
    x.panel.barometer = y.panel.barometer
  magnetometer : x.panel.magnetometer = y.panel.magnetometer
  autopilot : x.autopilot = y.autopilot
  duties : x.duties = y.duties
  demand : x.demand = y.demand
  time : x.time = y.time
  ticks : x.ticks = y.ticks

theorem alike_of_heeded_eq {x y : Aircraft α} (h : x.heeded c = y.heeded c) : x.Alike c y := by
  have same {β : Type} (f : Aircraft α → β) : f (x.heeded c) = f (y.heeded c) := congrArg f h
  have hdetected (hdetection : c.collisionDetection = true) (a : Aircraft α) :
      (a.heeded c).body = a.body := by
    have hkeep (k : Collision α) : k.heeded c = k := if_pos hdetection
    simp only [heeded, RigidBody.heeded, hkeep, Option.map_id']
  have hsurface (hkept : c.groundEffect.isSome = true ∨ c.useWeather = false) (a : Aircraft α) :
      (a.heeded c).panel.barometer = a.panel.barometer := by
    rcases hkept with heffect | huse
    · simp only [heeded, Panel.heeded, Barometer.heeded, Weather.heeded, if_pos heffect, ite_self]
    · simp only [heeded, Panel.heeded, Barometer.heeded, huse, Bool.false_eq_true, if_false]
  exact
    { config := same config
      dtMicros := same dtMicros
      rotors := same rotors
      propulsion := same propulsion
      body := same fun a => a.body.withPending none
      waiting := by
        have hsome := same fun a => a.body.pending.isSome
        simpa only [heeded, RigidBody.heeded, Option.isSome_map] using hsome
      detected := fun hd => by rw [← hdetected hd x, ← hdetected hd y, h]
      accelerometer := same fun a => a.panel.accelerometer
      gyroscope := same fun a => a.panel.gyroscope
      gps := same fun a => a.panel.gps
      barometer := same fun a => a.panel.barometer
      surface := fun he => by rw [← hsurface he x, ← hsurface he y, h]
      magnetometer := same fun a => a.panel.magnetometer
      autopilot := same autopilot
      duties := same duties
      demand := same demand
      time := same time
      ticks := same ticks }

omit [Scalar α] in
theorem Alike.reading_eq {x y : Aircraft α} (h : x.Alike c y) (kind : InstrumentKind) :
    x.read? kind = y.read? kind := by
  have hvalue : x.panel.barometer.value = y.panel.barometer.value :=
    congrArg (·.value) h.barometer
  have hread : x.panel.read kind = y.panel.read kind := by
    cases kind <;> simp only [Panel.read, h.accelerometer, h.gyroscope, h.gps, hvalue,
      h.magnetometer]
  simp only [read?, h.ticks, hread]

/-- Two histories of an aircraft that differ only in what the switches of the configuration and of
the ticks turn off leave the same aircraft after each of their operations.  What it merely keeps of
such inputs, besides the last input, are a surface in the barometer and a queued collision; neither
is ever read. -/
theorem unheeded_without_effect {built : Aircraft α} {events : List (Event α)}
    (h : build c r = .ok (built, events)) {xs ys : List (Operation α)}
    (hops : xs.map (Operation.heeded c) = ys.map (Operation.heeded c)) (n : Nat) :
    let x := built.after (xs.take n)
    let y := built.after (ys.take n)
    x.Alike c y ∧ (∀ kind, x.read? kind = y.read? kind) ∧
      x.panel.pressureAtm = y.panel.pressureAtm := by
  intro x y
  have hb := builtFrom_of_build h
  have ha := (assembly_of_build h).aligned
  have htake : (xs.take n).map (Operation.heeded c) = (ys.take n).map (Operation.heeded c) := by
    rw [List.map_take, List.map_take, hops]
  have hxy : x.heeded c = y.heeded c := heeded_after hb hb ha ha rfl htake
  have halike := alike_of_heeded_eq hxy
  refine ⟨halike, halike.reading_eq, ?_⟩
  rw [← x.panel.pressureAtm_heeded (c := c), ← y.panel.pressureAtm_heeded (c := c)]
  exact congrArg (fun a => a.panel.pressureAtm) hxy

/-- The standard aircraft has an autopilot that follows waypoints, and uses neither weather nor poses
of an operator. -/
theorem unheeded_without_effect_standard :
    let pose : Pose ℝ := { position := ⟨1, 2, -3⟩, angles := ⟨0.1, 0.2, 0.3⟩ }
    let x : Operation ℝ := .run { time := 7, useWeather := true, trace := true }
      { duties := some [0.1, 0.2, 0.3, 0.4], manual := some pose, weather := some .standard
        target := some (.radio .idle), wrench := none }
    let y : Operation ℝ := .run { time := 0, useWeather := false, trace := false }
      { duties := some [1, 1, 1, 1], manual := none, weather := none, target := none
        wrench := none }
    let r : Randomness ℝ := .boxMuller fun _ _ => 0
    ∃ a events, build (Configuration.standard : Configuration ℝ) r = .ok (a, events) ∧
      (a.after [x, .reset, x]).Alike .standard (a.after [y, .reset, y]) := by
  intro pose x y r
  obtain ⟨⟨a, events⟩, h⟩ :=
    exists_build_standard (p := Configuration.standard.instruments) rfl none r
  have hops : [x, .reset, x].map (Operation.heeded .standard) =
      [y, .reset, y].map (Operation.heeded .standard) := rfl
  obtain ⟨halike, -⟩ := unheeded_without_effect h hops 3
  exact ⟨a, events, h, halike⟩

/-- The barometer keeps the whole weather of a tick. -/
theorem keptWeather_fly (a : Aircraft α) (ctx : TickContext) (input : AircraftInput α) :
    (a.fly ctx input).1.panel.barometer.weather =
      (a.effectiveWeather ctx input).getD .standard := by
  rw [fly_fst]
  rfl

/-- The wind that is given to the body of the standard aircraft, which is level and at rest, drags
it along. -/
theorem acceleration_given_standard {a : Aircraft ℝ} {r : Randomness ℝ} {events : List (Event ℝ)}
    (h : build .standard r = .ok (a, events)) (w : Weather ℝ) :
    (a.body.run { wrench := 0, manual := none, weather := some w }).1.acceleration.x =
      0.05 * w.wind.x := by
  obtain ⟨-, -, hbody⟩ := RigidBody.atRest_eq_ok (assembly_of_build h).body
  rw [Configuration.startAttitude_standard] at hbody
  have hlevel (v : Vec3 ℝ) : (Euler.rotation (0 : Euler ℝ)).transpose.apply v = v := by
    change (Euler.rotation ⟨0, 0, 0⟩).transpose.apply v = v
    ext <;> simp [Euler.rotation, Mat3.transpose, Mat3.apply, Vec3.dot]
  rw [RigidBody.acceleration_run_of_free (by rw [hbody]; rfl), hbody]
  change ((Vec3.vertical (-0) + (Euler.rotation 0).transpose.apply (.vertical _) +
    Drag.force ⟨0.05, 0⟩ (0 - (Euler.rotation 0).transpose.apply w.wind) +
      (Euler.rotation 0).transpose.apply 0) / (1 : ℝ) - (0 : Vec3 ℝ).cross 0).x = _
  simp only [hlevel]
  norm_num [Drag.force, Vec3.map]

/-- What an aircraft does not heed it may still keep or feel: a surface without effect stays in the
weather that the barometer keeps, and a wind that is given to the body itself, past the aircraft,
drags it along although the aircraft uses no weather. -/
theorem unheeded_kept_or_felt :
    let r : Randomness ℝ := .boxMuller fun _ _ => 0
    let floor : Surface ℝ := { point := 0, normal := ⟨0, 0, 1⟩ }
    let shown (w : Weather ℝ) : Operation ℝ :=
      .run { time := 0, useWeather := true, trace := false }
        { AircraftInput.none with weather := some w }
    let given (w : Weather ℝ) : Operation ℝ :=
      .body (.run { wrench := 0, manual := none, weather := some w })
    (∃ a events,
      build { (Configuration.standard : Configuration ℝ) with useWeather := true } r =
        .ok (a, events) ∧
      a.config.groundEffect = none ∧
      (a.after [shown { Weather.standard with surface := some floor }]).panel.barometer ≠
        (a.after [shown .standard]).panel.barometer) ∧
    ∃ a events, build (Configuration.standard : Configuration ℝ) r = .ok (a, events) ∧
      a.config.useWeather = false ∧
      (a.after [given { Weather.standard with wind := ⟨10, 0, 0⟩ }]).body.acceleration ≠
        (a.after [given .standard]).body.acceleration := by
  intro r floor shown given
  obtain ⟨⟨a, events⟩, ha⟩ := exists_build_switched .scripted false true r
  obtain ⟨⟨a', events'⟩, ha'⟩ : ∃ built, build (Configuration.standard : Configuration ℝ) r =
      .ok built := exists_build_switched .scripted false false r
  have hconfig := (assembly_of_build ha).config
  refine ⟨⟨a, events, ha, by rw [hconfig]; rfl, fun hkept => ?_⟩, a', events', ha', ?_,
    fun hfelt => ?_⟩
  · have hweather (w : Weather ℝ) : (a.after [shown w]).panel.barometer.weather = w := by
      change (a.fly _ _).1.panel.barometer.weather = w
      rw [keptWeather_fly, effectiveWeather, hconfig]
      rfl
    have hsurface := congrArg (·.weather.surface) hkept
    simp only [hweather] at hsurface
    exact Option.some_ne_none floor hsurface
  · rw [(assembly_of_build ha').config]
    rfl
  · have hwind : (0.05 : ℝ) * 10 = 0.05 * 0 :=
      (acceleration_given_standard ha' _).symm.trans
        ((congrArg Vec3.x hfelt).trans (acceleration_given_standard ha' _))
    norm_num at hwind

end Aircraft

end Multirotor
