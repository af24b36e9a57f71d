import Multirotor.Proofs.Aircraft.Buildable

/-!
# Resetting

An aircraft keeps about forty values from tick to tick, spread over its parts.  Every part has a
`reset`, and for every part there are two facts here: whatever is done to it, its reset state stays
the same (`reset_run` and the like), and a part that was just built is its own reset state
(`reset_of_build`).  The noises are the exception: their reset is the next start of their generators,
so that the reset panel is the one that is built with what is left of the deviates
(`Panel.build_later`).  Hence after any history a reset gives an aircraft that the configuration
builds with some entropy of the system (`Aircraft.BuiltFrom`).  With a seed, and with all noise off,
the entropy does not matter (`Aircraft.build_congr`), and the reset aircraft is the one that is
built at any other time.
-/

namespace Multirotor

variable {α : Type} [Scalar α]

/-! ## Rotors -/

@[simp] theorem Rotor.reset_run (r : Rotor α) (duty : α) : (r.run duty).reset = r.reset := rfl

@[simp] theorem Propulsion.reset_run (p : Propulsion α) (spins : List (Spin α)) (atm : α) :
    (p.run spins atm).reset = p.reset := rfl

/-! ## The body -/

@[simp] theorem Attitude.kind_ofAngles (kind : AttitudeKind) (e : Euler α) :
    (ofAngles kind e).kind = kind := by
  cases kind <;> rfl

@[simp] theorem Attitude.setAngles_setAngles (a : Attitude α) (e e' : Euler α) :
    (a.setAngles e).setAngles e' = a.setAngles e' := by
  simp only [setAngles, kind_ofAngles]

@[simp] theorem Attitude.setAngles_advance (a : Attitude α) (w : Vec3 α) (dt : α) (e : Euler α) :
    (a.advance w dt).setAngles e = a.setAngles e := by
  cases a with
  | euler e' =>
    unfold advance
    dsimp only
    split <;> rfl
  | quaternion q => rfl

namespace RigidBody

@[simp] theorem reset_setPosition (b : RigidBody α) (p : Vec3 α) :
    (b.setPosition p).reset = b.reset := rfl

@[simp] theorem reset_setAngles (b : RigidBody α) (e : Euler α) :
    (b.setAngles e).reset = b.reset := by
  simp only [reset, setAngles, Attitude.setAngles_setAngles]

@[simp] theorem reset_setGroundVelocity (b : RigidBody α) (v : Vec3 α) :
    (b.setGroundVelocity v).reset = b.reset := rfl

@[simp] theorem reset_setAngularVelocity (b : RigidBody α) (w : Vec3 α) :
    (b.setAngularVelocity w).reset = b.reset := rfl

@[simp] theorem reset_setMotion (b : RigidBody α) (m : Motion α) :
    (b.setMotion m).reset = b.reset := rfl

@[simp] theorem reset_setCollision (b : RigidBody α) (c : Collision α) :
    (b.setCollision c).1.reset = b.reset := rfl

@[simp] theorem reset_integrate (b : RigidBody α) (input : BodyInput α) :
    (b.integrate input).reset = b.reset := by
  simp only [reset, integrate, Attitude.setAngles_advance]

@[simp] theorem reset_holdAboveGround (b : RigidBody α) : b.holdAboveGround.reset = b.reset := by
  unfold holdAboveGround
  dsimp only
  split_ifs <;> rfl

@[simp] theorem reset_collide (b : RigidBody α) (c : Collision α) :
    (b.collide c).1.reset = b.reset := by
  cases c with
  | bounce c =>
    simp only [collide, bounce]
    split <;> rfl
  | strike s =>
    simp only [collide, strike]
    split <;> rfl

@[simp] theorem reset_confine (b : RigidBody α) (bounds : Bounds α) :
    (b.confine bounds).1.reset = b.reset := by
  unfold confine
  split <;> rfl

@[simp] theorem reset_held (b : RigidBody α) : b.held.reset = b.reset := by
  unfold held
  split_ifs
  · exact reset_holdAboveGround b
  · rfl

@[simp] theorem reset_hit (b : RigidBody α) (collision : Option (Collision α)) :
    (b.hit collision).1.reset = b.reset := by
  cases collision with
  | none => rfl
  | some c =>
    unfold hit
    dsimp only
    split_ifs
    · exact reset_collide b c
    · rfl

@[simp] theorem reset_confined (b : RigidBody α) : b.confined.1.reset = b.reset := by
  unfold confined
  split
  · exact reset_confine b _
  · rfl

theorem reset_run (b : RigidBody α) (input : BodyInput α) : (b.run input).1.reset = b.reset := by
  cases h : b.placement input with
  | none =>
    rw [run_of_free h, reset_confined, reset_hit, reset_held, reset_integrate]
    rfl
  | some pose =>
    rw [run_of_placement h, reset_setAngles, reset_setPosition]
    rfl

theorem reset_forceRestore (b : RigidBody α) : b.forceRestore.reset = b.reset := by
  unfold forceRestore
  split <;> rfl

/-- No use of the body changes what it is reset to. -/
theorem reset_perform (b : RigidBody α) (op : BodyOperation α) :
    (b.perform op).1.reset = b.reset := by
  cases op with
  | setPosition p => exact reset_setPosition b p
  | setAngles e => exact reset_setAngles b e
  | setGroundVelocity v => exact reset_setGroundVelocity b v
  | setAngularVelocity w => exact reset_setAngularVelocity b w
  | setCollision c => exact reset_setCollision b c
  | forceRestore => exact reset_forceRestore b
  | run input => exact reset_run b input
  | reset => simp only [perform, reset, Attitude.setAngles_setAngles]

theorem reset_after (b : RigidBody α) (ops : List (BodyOperation α)) :
    (b.after ops).reset = b.reset :=
  after_induction (P := fun b' => b'.reset = b.reset)
    (fun b' op h => (reset_perform b' op).trans h) rfl ops

/-- A reset keeps where the body started and its switches. -/
theorem start_eq_of_reset {x y : RigidBody α} (h : x.reset = y.reset) : x.start = y.start := by
  change x.reset.start = y.reset.start
  rw [h]

theorem options_eq_of_reset {x y : RigidBody α} (h : x.reset = y.reset) :
    x.options = y.options := by
  change x.reset.options = y.reset.options
  rw [h]

theorem reset_of_build {airframe : Airframe α} {options : BodyOptions α} {kind : AttitudeKind}
    {position : Vec3 α} {angles : Euler α} {dt : α} {b : RigidBody α}
    (h : atRest airframe options kind position angles dt = .ok b) : b.reset = b := by
  obtain ⟨-, -, rfl⟩ := atRest_eq_ok h
  simp only [reset, Attitude.setAngles, Attitude.kind_ofAngles]

end RigidBody

/-! ## Instruments -/

@[simp] theorem Noise.reset_perturb (n : Noise α) (x : α) : (n.perturb x).2.reset = n.reset := by
  cases h : n.generator with
  | none => simp only [Noise.perturb, h]
  | some g =>
    simp only [Noise.perturb, h, Noise.reset]
    rfl

omit [Scalar α] in
@[simp] theorem Triad.reset_add (t : Triad α) (v : Vec3 α) : (t.add v).reset = t.reset := rfl

@[simp] theorem Triad.reset_read (t : Triad α) : t.read.2.reset = t.reset := by
  simp only [Triad.read, Triad.reset, Noise.reset_perturb]

@[simp] theorem Accelerometer.reset_run (m : Accelerometer α) (i : InertialMotion α) :
    (m.run i).reset = m.reset := by
  simp only [Accelerometer.run, Accelerometer.reset, Triad.reset_read, Triad.reset_add]

@[simp] theorem Gyroscope.reset_run (m : Gyroscope α) (w : Vec3 α) : (m.run w).reset = m.reset := by
  simp only [Gyroscope.run, Gyroscope.reset, Triad.reset_read, Triad.reset_add]

@[simp] theorem Gps.reset_run (m : Gps α) (position velocity : Vec3 α) :
    (m.run position velocity).reset = m.reset := by
  simp only [Gps.run, Gps.reset, Triad.reset_read, Triad.reset_add]

@[simp] theorem Barometer.reset_run (m : Barometer α) (position : Vec3 α)
    (weather : Option (Weather α)) : (m.run position weather).reset = m.reset := by
  simp only [Barometer.run, Barometer.reset, Noise.reset_perturb]
  rfl

@[simp] theorem Magnetometer.reset_run (m : Magnetometer α) (angles : Euler α) :
    (m.run angles).reset = m.reset := by
  simp only [Magnetometer.run, Magnetometer.reset, Triad.reset_read, Triad.reset_add]

namespace Panel

@[simp] theorem reset_run (p : Panel α) (o : Observation α) : (p.run o).reset = p.reset := by
  simp only [run, reset, Accelerometer.reset_run, Gyroscope.reset_run, Gps.reset_run,
    Barometer.reset_run, Magnetometer.reset_run]

end Panel

/-! ### The next start of the generators -/

omit [Scalar α] in
theorem Generator.restart_start (r : Randomness α) (deviation : α) (seed : Option UInt64) :
    (start r deviation seed).restart = start r.later deviation seed := by
  cases seed <;> rfl

theorem Noise.build_later (variance : α) (seed : Option UInt64) (r : Randomness α) :
    build variance seed r.later = (build variance seed r).map reset := by
  unfold build
  cases deviation? variance with
  | error f => rfl
  | ok deviation =>
    cases deviation with
    | none => rfl
    | some d =>
      simp only [bind, Except.bind, Except.map, reset, Option.map_some, Generator.restart_start]

theorem Triad.build_later (s : InstrumentSettings α) (seed : Option UInt64) (r : Randomness α) :
    build s seed r.later = (build s seed r).map reset := by
  rw [build, build, Noise.build_later]
  cases Noise.build s.noiseVariance seed r <;> rfl

theorem Accelerometer.build_later (s : InstrumentSettings α) (dt gravity : α)
    (seed : Option UInt64) (r : Randomness α) :
    build s dt gravity seed r.later = (build s dt gravity seed r).map reset := by
  rw [build, build, Triad.build_later]
  cases Triad.build s seed r <;> rfl

theorem Gyroscope.build_later (s : InstrumentSettings α) (seed : Option UInt64)
    (r : Randomness α) : build s seed r.later = (build s seed r).map reset := by
  rw [build, build, Triad.build_later]
  cases Triad.build s seed r <;> rfl

theorem Gps.build_later (s : InstrumentSettings α) (reference : GeoReference α)
    (seed : Option UInt64) (r : Randomness α) :
    build s reference seed r.later = (build s reference seed r).map reset := by
  have hdrop : r.later.drop 1 = (r.drop 1).later := rfl
  rw [build, build, Triad.build_later, hdrop, Triad.build_later]
  cases Triad.build s seed r with
  | error f => rfl
  | ok position => cases Triad.build s (seed.map velocitySeed) (r.drop 1) <;> rfl

theorem Barometer.build_later (s : InstrumentSettings α) (reference : GeoReference α)
    (seed : Option UInt64) (r : Randomness α) :
    build s reference seed r.later = (build s reference seed r).map reset := by
  rw [build, build, Noise.build_later]
  cases Noise.build s.noiseVariance seed r <;> rfl

theorem Magnetometer.build_later (s : InstrumentSettings α) (field : MagneticField α)
    (seed : Option UInt64) (r : Randomness α) :
    build s field seed r.later = (build s field seed r).map reset := by
  rw [build, build, Triad.build_later]
  cases Triad.build s seed r <;> rfl

/-- The panel that is built with what is left of the deviates is the reset one. -/
theorem Panel.build_later {s : PanelSettings α} {reference : GeoReference α}
    {field : MagneticField α} {dt gravity : α} {seed : Option UInt64} {r : Randomness α}
    {p : Panel α} (h : build s reference field dt gravity seed r = .ok p) :
    build s reference field dt gravity seed r.later = .ok p.reset := by
  have hdrop (n : Nat) : r.later.drop n = (r.drop n).later := rfl
  obtain ⟨hs, ha, hg, hp, hb, hm⟩ := build_eq_ok h
  simp only [build, hdrop, Accelerometer.build_later, Gyroscope.build_later, Gps.build_later,
    Barometer.build_later, Magnetometer.build_later, hs, ha, hg, hp, hb, hm]
  rfl

/-! ### When the entropy does not matter -/

section Entropy

variable {seed : Option UInt64} {r r' : Randomness α} (hr : r'.seeded = r.seeded)

include hr

/-- Noise that has a seed or is switched off draws nothing from the entropy of the system. -/
theorem Noise.build_congr {variance : α} (h : seed.isSome = true ∨ ¬ 0 < variance) :
    build variance seed r' = build variance seed r := by
  rcases h with hseed | hoff
  · obtain ⟨w, rfl⟩ := Option.isSome_iff_exists.1 hseed
    simp only [build, Generator.start, hr]
  · rw [build, build, deviation?_of_not_pos hoff]
    rfl

theorem Triad.build_congr {s : InstrumentSettings α}
    (h : seed.isSome = true ∨ ¬ 0 < s.noiseVariance) : build s seed r' = build s seed r := by
  rw [build, build, Noise.build_congr hr h]

theorem Panel.build_congr {s : PanelSettings α} {reference : GeoReference α}
    {field : MagneticField α} {dt gravity : α}
    (h : seed.isSome = true ∨ ∀ kind, ¬ 0 < (s.get kind).noiseVariance) :
    build s reference field dt gravity seed r' = build s reference field dt gravity seed r := by
  have hdrop (n : Nat) : (r'.drop n).seeded = (r.drop n).seeded := hr
  have hkind (kind : InstrumentKind) :
      (seedFor seed kind).isSome = true ∨ ¬ 0 < (s.get kind).noiseVariance := by
    refine h.imp (fun hseed => ?_) fun hoff => hoff kind
    cases kind <;> simpa [seedFor] using hseed
  have hvelocity : ((seedFor seed .gps).map Gps.velocitySeed).isSome = true ∨
      ¬ 0 < s.gps.noiseVariance :=
    (hkind .gps).imp_left fun hseed => by simpa using hseed
  have haccelerometer := Triad.build_congr hr (hkind .accelerometer)
  have hgyroscope := Triad.build_congr (hdrop 1) (hkind .gyroscope)
  have hposition := Triad.build_congr (hdrop 2) (hkind .gps)
  have hrest : ((r'.drop 2).drop 1).seeded = ((r.drop 2).drop 1).seeded := hr
  have hspeed := Triad.build_congr hrest hvelocity
  have hbarometer := Noise.build_congr (hdrop 4) (hkind .barometer)
  have hmagnetometer := Triad.build_congr (hdrop 5) (hkind .magnetometer)
  simp only [PanelSettings.get] at haccelerometer hgyroscope hposition hbarometer hmagnetometer
  simp only [build, Accelerometer.build, Gyroscope.build, Gps.build, Barometer.build,
    Magnetometer.build, haccelerometer, hgyroscope, hposition, hspeed, hbarometer, hmagnetometer]

end Entropy

/-! ## The autopilot -/

@[simp] theorem Pid.reset_update (p : Pid α) (target measurement : α) (saturated : Bool) :
    (p.update target measurement saturated).2.reset = p.reset := by
  unfold Pid.update
  split_ifs <;> rfl

@[simp] theorem ClimbControl.reset_run (c : ClimbControl α) (target altitude climbRate : α)
    (e : Euler α) : (c.run target altitude climbRate e).2.reset = c.reset := by
  simp only [ClimbControl.run, ClimbControl.reset, Pid.reset_update]

@[simp] theorem ClimbControl.reset_addLimit (c : ClimbControl α) (limited : Bool) :
    (c.addLimit limited).reset = c.reset := rfl

@[simp] theorem TravelControl.reset_runVelocity (c : TravelControl α) (target velocity : Vec2 α)
    (yaw : α) : (c.runVelocity target velocity yaw).2.reset = c.reset := by
  simp only [TravelControl.runVelocity, TravelControl.reset, Pid.reset_update]

@[simp] theorem TurnControl.reset_run (c : TurnControl α) (e : Euler α) (w : Vec3 α)
    (roll pitch yawRate : α) : (c.run e w roll pitch yawRate).2.reset = c.reset := by
  simp only [TurnControl.run, TurnControl.reset, Vec3.map, Pid.reset_update]

@[simp] theorem Transmitter.reset_update (t : Transmitter α) (command : Option (RadioCommand α))
    (elapsed : UInt64) : (t.update command elapsed).reset = t.reset := rfl

namespace Autopilot

theorem reset_guide (a : Autopilot α) (o : Observation α) (target : Option (Target α)) :
    (a.guide o target).2.reset = a.reset := by
  cases h : a.mode with
  | scripted =>
    simp only [guide, h, guideScripted, TravelControl.run, reset, TravelControl.reset_runVelocity]
  | radio angleDirect =>
    cases angleDirect <;>
      simp only [guide, h, guideByRadio, reset, TravelControl.reset_runVelocity,
        Transmitter.reset_update, Bool.false_eq_true, if_true, if_false]

theorem reset_run (a : Autopilot α) (o : Observation α) (target : Option (Target α)) :
    (a.run o target).2.reset = a.reset := by
  rw [← reset_guide a o target]
  simp only [run, reset, ClimbControl.reset_addLimit, ClimbControl.reset_run,
    TurnControl.reset_run]

theorem reset_start (mode : ControlMode) (parameters : PilotParameters α) (airframe : Airframe α)
    (maxThrust : α) (mixer : Mixer α) (dt : α) :
    (start mode parameters airframe maxThrust mixer dt).reset =
      start mode parameters airframe maxThrust mixer dt := rfl

end Autopilot

/-! ## The aircraft -/

attribute [ext] Aircraft

namespace Aircraft

theorem map_reset_spinRotors {a : Aircraft α} (h : a.Aligned) (weather : Option (Weather α)) :
    (a.spinRotors weather).rotors.map Rotor.reset = a.rotors.map Rotor.reset := by
  -- With fewer duties than rotors the zip would drop a rotor that no reset brings back.
  have key : ∀ (rotors : List (Rotor α)) (duties : List α), duties.length = rotors.length →
      ((rotors.zip duties).map fun p => p.1.run p.2).map Rotor.reset =
        rotors.map Rotor.reset := by
    intro rotors duties hlen
    rw [List.map_map]
    calc (rotors.zip duties).map (Rotor.reset ∘ fun p => p.1.run p.2)
        = (rotors.zip duties).map (Rotor.reset ∘ Prod.fst) := rfl
      _ = rotors.map Rotor.reset := by
        rw [← List.map_map, List.map_fst_zip (Nat.le_of_eq hlen.symm)]
  exact key a.rotors a.duties h.duties

theorem reset_fly {a : Aircraft α} (h : a.Aligned) (ctx : TickContext) (input : AircraftInput α) :
    (a.fly ctx input).1.reset = a.reset := by
  have hpilot : (if a.config.directDuties then a.autopilot else (a.steered ctx input).2).reset =
      a.autopilot.reset := by
    split_ifs
    · rfl
    · exact Autopilot.reset_run _ _ _
  have hrotors := map_reset_spinRotors h (a.effectiveWeather ctx input)
  have hlen := length_spinRotors h (a.effectiveWeather ctx input)
  rw [fly_fst]
  simp only [reset, hpilot, hrotors, hlen, RigidBody.reset_run, Panel.reset_run]
  rfl

/-- No operation changes what the aircraft is reset to, but every reset is a further start of the
noises. -/
theorem reset_perform {a : Aircraft α} (h : a.Aligned) (op : Operation α) :
    (a.perform op).aircraft.reset = a.reset ∨ (a.perform op).aircraft = a.reset.1 := by
  cases op with
  | run ctx input =>
    left
    simp only [perform]
    split
    · rename_i a' events hr
      obtain ⟨ready, ht, rfl, -⟩ := run_cases hr
      refine (reset_fly (aligned_takeDuties h ht) ctx input).trans ?_
      obtain rfl | ⟨ds, -, -, rfl⟩ := takeDuties_cases ht <;> rfl
    · rfl
  | setCollision c => exact .inl rfl
  | body op =>
    left
    simp only [perform, reset, RigidBody.reset_perform]
  | reset => exact .inr rfl

theorem config_perform {a : Aircraft α} (h : a.Aligned) (op : Operation α) :
    (a.perform op).aircraft.config = a.config := by
  obtain heq | heq := reset_perform h op
  · exact congrArg (·.1.config) heq
  · exact congrArg (·.config) heq

/-- A reset changes nothing but the noises of an aircraft that was just built. -/
theorem reset_of_assembly {c : Configuration α} {r : Randomness α} {a : Aircraft α}
    (h : Assembly c r a) : a.reset.1 = { a with panel := a.panel.reset } := by
  have hrotors : a.rotors.map Rotor.reset = a.rotors := by
    refine (List.map_congr_left fun r hr => ?_).trans (List.map_id a.rotors)
    obtain ⟨drive, rfl⟩ := buildRotor_eq_ok (h.rotors r hr)
    rfl
  have hprop : a.propulsion.reset = a.propulsion := by rw [h.propulsion]; rfl
  have hpilot : a.autopilot.reset = a.autopilot := by rw [h.autopilot, Autopilot.reset_start]
  exact Aircraft.ext rfl rfl hrotors hprop (RigidBody.reset_of_build h.body) rfl hpilot
    h.duties.symm h.demand.symm h.time.symm h.ticks.symm h.lastInput.symm

/-- What is built with what is left of the deviates is the reset aircraft. -/
theorem build_later {c : Configuration α} {r : Randomness α} {a : Aircraft α}
    {events : List (Event α)} (h : build c r = .ok (a, events)) :
    build c r.later = .ok (a.reset.1, events) := by
  have hasm := assembly_of_build h
  rw [reset_of_assembly hasm]
  exact build_of_panel h (Panel.build_later hasm.panel)

/-! ## Aircraft in any state -/

/-- The aircraft is one of the configuration, whatever it is doing: its reset is the aircraft as it
is built with what the system hands out at that time. -/
def BuiltFrom (c : Configuration α) (r : Randomness α) (a : Aircraft α) : Prop :=
  ∃ r' events, r'.seeded = r.seeded ∧ build c r' = .ok (a.reset.1, events)

section State

variable {c : Configuration α} {r : Randomness α} {a : Aircraft α} {events : List (Event α)}

theorem builtFrom_of_build (h : build c r = .ok (a, events)) : a.BuiltFrom c r :=
  ⟨r.later, events, rfl, build_later h⟩

namespace BuiltFrom

theorem assembly (h : a.BuiltFrom c r) : ∃ r', Assembly c r' a.reset.1 := by
  obtain ⟨r', _, -, h⟩ := h
  exact ⟨r', assembly_of_build h⟩

theorem config (h : a.BuiltFrom c r) : a.config = c := by
  obtain ⟨_, hasm⟩ := h.assembly
  exact hasm.config

theorem length_rotors (h : a.BuiltFrom c r) : a.rotors.length = c.rotorCount.toNat := by
  obtain ⟨_, hasm⟩ := h.assembly
  exact (List.length_map _).symm.trans hasm.rotorCount

theorem rotor (h : a.BuiltFrom c r) {rotor : Rotor α} (hr : rotor ∈ a.rotors) :
    buildRotor c = .ok rotor.reset := by
  obtain ⟨_, hasm⟩ := h.assembly
  exact hasm.rotors _ (List.mem_map_of_mem hr)

theorem propulsion (h : a.BuiltFrom c r) : a.propulsion.reset = .idle c.mounts c.rotor := by
  obtain ⟨_, hasm⟩ := h.assembly
  exact hasm.propulsion

theorem body (h : a.BuiltFrom c r) :
    a.body.airframe = c.airframe ∧ a.body.options = c.bodyOptions := by
  obtain ⟨_, hasm⟩ := h.assembly
  obtain ⟨-, -, hbody⟩ := RigidBody.atRest_eq_ok hasm.body
  exact ⟨congrArg (·.airframe) hbody, congrArg (·.options) hbody⟩

theorem mixer (h : a.BuiltFrom c r) :
    Mixer.build c.mounts c.rotor c.dutyCurve = .ok a.autopilot.mixer := by
  obtain ⟨_, hasm⟩ := h.assembly
  exact hasm.mixer

theorem autopilot (h : a.BuiltFrom c r) : a.autopilot.reset =
    .start c.mode c.pilot c.airframe c.maxThrust a.autopilot.mixer c.timeStep := by
  obtain ⟨_, hasm⟩ := h.assembly
  exact hasm.autopilot

theorem dtMicros (h : a.BuiltFrom c r) : a.dtMicros = c.timeStepMicros := by
  obtain ⟨_, hasm⟩ := h.assembly
  exact hasm.dtMicros

theorem aligned (h : a.BuiltFrom c r) (hduties : a.duties.length = a.rotors.length) :
    a.Aligned := by
  obtain ⟨_, hasm⟩ := h.assembly
  exact ⟨hduties, hasm.aligned.mounts.trans (List.length_map _),
    hasm.aligned.mixer.trans (List.length_map _)⟩

theorem perform (h : a.BuiltFrom c r) (ha : a.Aligned) (op : Operation α) :
    (a.perform op).aircraft.BuiltFrom c r := by
  obtain ⟨r', events, hr, h⟩ := h
  obtain heq | heq := reset_perform ha op
  · exact ⟨r', events, hr, by rw [heq, h]⟩
  · exact ⟨r'.later, events, hr, by rw [heq, build_later h]⟩

theorem after (h : a.BuiltFrom c r) (ha : a.Aligned) (ops : List (Operation α)) :
    (a.after ops).BuiltFrom c r := by
  induction ops generalizing a with
  | nil => exact h
  | cons op ops ih => exact ih (h.perform ha op) (aligned_perform ha op)

end BuiltFrom

/-- With a seed, and with all noise off, what the system hands out makes no difference. -/
theorem build_congr {r' : Randomness α} (hr : r'.seeded = r.seeded)
    (hc : c.noiseSeed.isSome = true ∨ ∀ kind, ¬ 0 < (c.instruments.get kind).noiseVariance) :
    build c r' = build c r := by
  unfold build
  rw [Panel.build_congr hr hc]

/-- With a seed, or with all noise off, a reset after any history gives the aircraft that the
configuration builds at any other time, when the generators give the same after a start from a seed
and whatever else after one from the system's entropy, and no later sequence of operations tells the
two apart. -/
theorem reset_after_build {r' : Randomness α} (h : build c r = .ok (a, events))
    (hc : c.noiseSeed.isSome = true ∨ ∀ kind, ¬ 0 < (c.instruments.get kind).noiseVariance)
    (hr : r'.seeded = r.seeded) (before : List (Operation α)) :
    ∃ fresh, build c r' = .ok (fresh, events) ∧ (a.after before).reset.1 = fresh ∧
      ∀ later, (a.after before).reset.1.history later = fresh.history later := by
  obtain ⟨_, _, hs, hreset⟩ :=
    (builtFrom_of_build h).after (assembly_of_build h).aligned before
  rw [build_congr hs hc, h] at hreset
  have heq : (a.after before).reset.1 = a := (Prod.ext_iff.1 (Except.ok.inj hreset)).1.symm
  exact ⟨a, (build_congr hr hc).trans h, heq, fun later => by rw [heq]⟩

end State

/-- The standard aircraft with noisy instruments is the same again after it was flown, moved, hit
and flown once more. -/
theorem reset_after_build_standard :
    let i : InstrumentSettings ℝ := { sampleCount := 3, noiseVariance := 0.01 }
    let instruments : PanelSettings ℝ :=
      { accelerometer := i, gyroscope := i, gps := i, barometer := i, magnetometer := i }
    let c : Configuration ℝ :=
      { Configuration.standard with instruments, noiseSeed := some 21 }
    let tick : Operation ℝ := .run { time := 0, useWeather := false, trace := true } .none
    let before := [tick, .body (.setPosition ⟨1, 2, -3⟩), .setCollision (.bounce
      { contact := 0, relativeVelocity := ⟨0, 0, 1⟩, restitution := 0.5 }), tick]
    let r : Randomness ℝ := .boxMuller fun noise start => (noise + 6 * start).toUInt64
    let other : Randomness ℝ := { r with unseeded := fun noise start => r.unseeded noise (start + 7) }
    ∃ a fresh events, build c r = .ok (a, events) ∧ c.noiseSeed.isSome = true ∧
      other.seeded = r.seeded ∧ build c other = .ok (fresh, events) ∧
      (a.after before).reset.1 = fresh ∧
      (a.after before).reset.1.history [tick, tick] = fresh.history [tick, tick] := by
  intro i instruments c tick before r other
  obtain ⟨⟨a, events⟩, h⟩ := exists_build_standard (p := instruments) rfl (some 21) r
  have hseeded : other.seeded = r.seeded := rfl
  obtain ⟨fresh, hfresh, hreset, hhistory⟩ := reset_after_build h (.inl rfl) hseeded before
  exact ⟨a, fresh, events, h, rfl, hseeded, hfresh, hreset, hhistory _⟩

end Aircraft

end Multirotor
