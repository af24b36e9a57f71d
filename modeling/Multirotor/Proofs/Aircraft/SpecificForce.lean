import Multirotor.Proofs.Aircraft.Bookkeeping
import Multirotor.Proofs.Aircraft.Buildable
import Multirotor.Proofs.Body.Frames
import Multirotor.Proofs.Body.Rest

/-!
# Specific force

The integration adds gravity to the forces on the body, and the accelerometer takes gravity away
again from the change of the velocity.  The one uses the attitude before the tick and the other that
after it, each by its own computation.  They agree on a body that does not turn, so that what is
shown is the thrust, the drag and the force of a surface in the body frame, for every attitude
(`RigidBody.specificForce_integrate`).  In an aircraft the instrument and the body are built with one
timestep and one gravity, and no history takes them apart (`Aircraft.accelerometer_shows_force`).
-/

namespace Multirotor

/-! ## Windows for one sample -/

namespace SampleWindow

variable {α : Type} {w : SampleWindow α}

/-- The window has room for one sample and holds no more. -/
structure Single (w : SampleWindow α) : Prop where
  capacity : w.capacity = 1
  length_le : w.samples.length ≤ 1

theorem Single.reset (h : w.Single) : w.reset.Single := ⟨h.capacity, Nat.zero_le 1⟩

theorem Single.samples_add (h : w.Single) (x : α) : (w.add x).samples = [x] := by
  have hkept : (if w.samples.length = w.capacity then w.samples.drop 1 else w.samples) = [] := by
    rw [h.capacity]
    split_ifs with hfull
    · exact List.drop_eq_nil_of_le hfull.le
    · exact List.length_eq_zero_iff.1 (Nat.lt_one_iff.1 (lt_of_le_of_ne h.length_le hfull))
  rw [add, hkept, List.nil_append]

theorem Single.add (h : w.Single) (x : α) : (w.add x).Single :=
  ⟨h.capacity, by rw [h.samples_add, List.length_singleton]⟩

theorem Single.mean_add {w : SampleWindow ℝ} (h : w.Single) (x : ℝ) : (w.add x).mean = x := by
  have hholds : (w.add x).Holds x := fun y hy => by
    rw [h.samples_add] at hy
    exact List.mem_singleton.1 hy
  exact hholds.mean (samples_add_ne_nil w x)

end SampleWindow

namespace Triad

/-- The instrument shows its last sample as it is. -/
structure Direct (t : Triad ℝ) : Prop where
  silent : t.noise.generator = none
  x : t.windows.x.Single
  y : t.windows.y.Single
  z : t.windows.z.Single

variable {t : Triad ℝ}

theorem direct_of_build {s : InstrumentSettings ℝ} {seed : Option UInt64} {r : Randomness ℝ}
    (h : Triad.build s seed r = .ok t) (hwindow : s.sampleCount = 1)
    (hsilent : s.noiseVariance ≤ 0) : t.Direct := by
  obtain ⟨noise, hnoise, rfl⟩ := build_eq_ok h
  have hempty : s.window.Single := by
    rw [InstrumentSettings.window, hwindow]
    exact ⟨rfl, Nat.zero_le 1⟩
  exact ⟨Noise.generator_of_build hnoise hsilent, hempty, hempty, hempty⟩

theorem Direct.reset (h : t.Direct) : t.reset.Direct :=
  ⟨Noise.generator_reset h.silent, h.x.reset, h.y.reset, h.z.reset⟩

theorem Direct.add (h : t.Direct) (v : Vec3 ℝ) : (t.add v).Direct :=
  ⟨h.silent, h.x.add v.x, h.y.add v.y, h.z.add v.z⟩

theorem Direct.read_add (h : t.Direct) (v : Vec3 ℝ) : (t.add v).read = (v, t.add v) := by
  have hmean : (t.add v).mean = v := by
    ext
    · exact h.x.mean_add v.x
    · exact h.y.mean_add v.y
    · exact h.z.mean_add v.z
  rw [read_of_silent (h.add v).silent, hmean]

end Triad

namespace Accelerometer

variable {a : Accelerometer ℝ}

theorem direct_run (h : a.triad.Direct) (m : InertialMotion ℝ) : (a.run m).triad.Direct := by
  simp only [run, h.read_add]
  exact h.add _

theorem value_run (h : a.triad.Direct) (m : InertialMotion ℝ) :
    (a.run m).value = a.specificForce m := by
  simp only [run, h.read_add]

end Accelerometer

/-! ## The forces that are sensed -/

namespace Forces

/-- The forces other than the weight, in the body frame. -/
noncomputable def contact (f : Forces ℝ) (e : Euler ℝ) (v : Vec3 ℝ) : Vec3 ℝ :=
  .vertical (-f.thrust) + f.drag.force (f.airVelocity e v) +
    e.rotation.transpose.apply f.external

theorem bodyAcceleration_zero {f : Forces ℝ} (hmass : f.mass ≠ 0) (e : Euler ℝ) (v : Vec3 ℝ) :
    f.bodyAcceleration e v 0 =
      f.contact e v / f.mass + e.rotation.transpose.apply (.vertical f.gravity) := by
  have hturn : f.bodyAcceleration e v 0 = f.bodyAcceleration e v 0 + (0 : Vec3 ℝ).cross v := by
    ext <;> simp
  have hweight : e.rotation.transpose.apply (.vertical (f.mass * f.gravity)) =
      e.rotation.transpose.apply (.vertical f.gravity) * f.mass := by
    rw [← Mat3.apply_scale, Vec3.vertical_scale, mul_comm]
  rw [hturn, bodyAcceleration_add_cross, hweight, contact]
  ext <;> simp <;> field_simp <;> ring

end Forces

/-- A thrust that is zero does not come back. -/
theorem GroundEffect.force_zero (g : GroundEffect ℝ) (s : Surface ℝ)
    (position downwash : Vec3 ℝ) (rotorRadius : ℝ) :
    g.force s position downwash 0 rotorRadius = 0 := by
  have hnone (v : Vec3 ℝ) (k : ℝ) : v * (g.power * 0 * k) = 0 := by
    ext <;> simp
  unfold force
  split
  · dsimp only
    split_ifs
    · rfl
    · rfl
    · exact hnone _ _
  · rfl

namespace RigidBody

variable {b : RigidBody ℝ} {input : BodyInput ℝ}

theorem surfaceForce_zero (b : RigidBody ℝ) (weather : Weather ℝ) :
    b.surfaceForce weather 0 = 0 := by
  unfold surfaceForce
  split
  · exact GroundEffect.force_zero _ _ _ _ _
  · rfl

/-! ## What a tick lets the instrument sense -/

/-- A tick moves the body by its integration alone: no operator places it, and the ground and the
bounds leave it as it is. -/
structure Undisturbed (b : RigidBody ℝ) (input : BodyInput ℝ) : Prop where
  free : b.placement input = none
  held : (b.integrate input).held = b.integrate input
  confined : (b.integrate input).confined.1 = b.integrate input

theorem Undisturbed.run (h : b.Undisturbed input) (hpending : b.pending = none) :
    (b.run input).1 = b.integrate input := by
  have hreleased : b.released = b := by rw [released, ← hpending]
  rw [run_of_free h.free, hreleased, h.held, hpending]
  exact h.confined

/-- Gravity, added by the integration and taken away by the instrument, cancels. -/
theorem specificForce_integrate (hstill : b.angularVelocity = 0)
    (htorque : input.wrench.torque = 0) (hproper : b.attitude.IsProper) (hmass : b.airframe.mass ≠ 0)
    (hdt : b.dt ≠ 0) {a : Accelerometer ℝ} (hprevious : a.previous = some b.velocity)
    (hstep : a.dt = b.dt) (hgravity : a.gravity = b.airframe.gravity) :
    a.specificForce (b.integrate input).inertialMotion =
      (b.forces (input.weather.getD .standard) input.wrench.thrust).contact b.angles b.velocity /
        b.airframe.mass := by
  set f := b.forces (input.weather.getD .standard) input.wrench.thrust with hf
  have hchange : ((b.integrate input).velocity - b.velocity) / b.dt =
      f.bodyAcceleration b.angles b.velocity 0 := by
    have hvelocity : (b.integrate input).velocity =
        b.velocity + f.bodyAcceleration b.angles b.velocity 0 * b.dt := by
      rw [← hstill, hf]
      rfl
    rw [hvelocity]
    ext <;> simp [hdt]
  have hturn (v : Vec3 ℝ) : (0 : Vec3 ℝ).cross v = 0 := by ext <;> simp
  -- The integration has used the angles before the tick, and the instrument uses those after it.
  have hrotation : (b.integrate input).angles.rotation = b.angles.rotation := by
    rw [angles, angles, attitude_integrate_zero hstill htorque,
      (hproper.advance 0 b.dt).rotation_angles, hproper.rotation_advance_zero,
      hproper.rotation_angles]
  have hweight : (b.integrate input).angles.toBody (.vertical a.gravity) =
      b.angles.rotation.transpose.apply (.vertical f.gravity) := by
    rw [Euler.toBody, hrotation, hgravity]
    rfl
  have hcancel (u v : Vec3 ℝ) : u + v + 0 - v = u := by ext <;> simp
  simp only [Accelerometer.specificForce, hprevious, inertialMotion, hstep]
  rw [hchange, angularVelocity_integrate_zero hstill htorque, hturn, hweight,
    Forces.bodyAcceleration_zero (f := f) hmass, hcancel]
  rfl

end RigidBody

/-! ## In an aircraft -/

namespace Aircraft

variable {c : Configuration ℝ} {r : Randomness ℝ} {a a' : Aircraft ℝ} {ctx : TickContext}
  {input : AircraftInput ℝ}  {events : List (Event ℝ)}

/-- What the body was given in the tick from `a` to `a'`. -/
def given (a a' : Aircraft ℝ) (ctx : TickContext) (input : AircraftInput ℝ) : BodyInput ℝ :=
  { wrench := input.wrench.getD a'.propulsion.wrench
    manual := input.manual
    weather := a.effectiveWeather ctx input }

/-- A tick moves the body and lets the instruments sample what came of it. -/
theorem body_run (h : a.run ctx input = .ok (a', events)) :
    a'.body = (a.body.run (a.given a' ctx input)).1 ∧
      a'.panel = a.panel.run (a'.observe (a.effectiveWeather ctx input)) := by
  obtain ⟨ready, ht, rfl, -⟩ := run_cases h
  obtain rfl := takeDuties_eq_ok ht
  rw [fly_fst]
  exact ⟨rfl, rfl⟩

theorem after_concat_run {ops : List (Operation ℝ)}
    (h : (a.after ops).run ctx input = .ok (a', events)) :
    a.after (ops ++ [.run ctx input]) = a' := by
  rw [after, List.foldl_append]
  change ((a.after ops).perform (.run ctx input)).aircraft = a'
  simp only [perform, h]

namespace BuiltFrom

variable (h : a.BuiltFrom c r)

include h

theorem dt_body : a.body.dt = c.timeStep := by
  obtain ⟨_, hasm⟩ := h.assembly
  obtain ⟨-, -, hbody⟩ := RigidBody.atRest_eq_ok hasm.body
  exact congrArg (·.dt) hbody

theorem mass_pos : 0 < c.mass := by
  obtain ⟨_, hasm⟩ := h.assembly
  obtain ⟨hframe, -, -⟩ := RigidBody.atRest_eq_ok hasm.body
  unfold Airframe.check at hframe
  split_ifs at hframe with hmass
  exact hmass

theorem timeStep_pos : 0 < c.timeStep := by
  obtain ⟨_, hasm⟩ := h.assembly
  exact Configuration.timeStep_pos (Configuration.check_eq_ok.1 hasm.check).1

/-- The accelerometer has the timestep and the gravity of the body. -/
theorem accelerometer : a.panel.accelerometer.dt = a.body.dt ∧
    a.panel.accelerometer.gravity = a.body.airframe.gravity := by
  obtain ⟨_, hasm⟩ := h.assembly
  obtain ⟨-, hbuild, -⟩ := Panel.build_eq_ok hasm.panel
  obtain ⟨triad, -, hreset⟩ := Accelerometer.build_eq_ok hbuild
  rw [h.dt_body, h.body.1]
  exact ⟨congrArg (·.dt) hreset, congrArg (·.gravity) hreset⟩

end BuiltFrom

/-- The accelerometer shows what it senses, and it has been fed the velocity that the body has. -/
structure Sensing (c : Configuration ℝ) (r : Randomness ℝ) (a : Aircraft ℝ) : Prop where
  builtFrom : a.BuiltFrom c r
  attitude : a.body.attitude.IsProper
  direct : a.panel.accelerometer.triad.Direct
  previous : a.panel.accelerometer.previous = some a.body.velocity
  pending : a.body.pending = none

/-- Any tick after any history feeds the accelerometer the velocity of the body. -/
theorem sensing_of_run {built : Aircraft ℝ} (hbuild : build c r = .ok (built, events))
    (hwindow : c.instruments.accelerometer.sampleCount = 1)
    (hsilent : c.instruments.accelerometer.noiseVariance ≤ 0) (ops : List (Operation ℝ))
    {told : List (Event ℝ)} (h : (built.after ops).run ctx input = .ok (a, told)) :
    a.Sensing c r := by
  have hasm := assembly_of_build hbuild
  have hprevious : a.panel.accelerometer.previous = some a.body.velocity := by
    rw [(body_run h).2]
    rfl
  have hpending := pending_of_run h
  obtain rfl := after_concat_run h
  obtain ⟨-, -, hbody⟩ := RigidBody.atRest_eq_ok hasm.body
  obtain ⟨-, hpanel, -⟩ := Panel.build_eq_ok hasm.panel
  obtain ⟨triad, htriad, haccelerometer⟩ := Accelerometer.build_eq_ok hpanel
  -- What the last tick did is known; the attitude and the windows are invariants of the history.
  refine ⟨(builtFrom_of_build hbuild).after hasm.aligned _, ?_, ?_, hprevious, hpending⟩
  · refine body_after (P := fun b => b.attitude.IsProper)
      (fun b op hb => RigidBody.isProper_after hb [op]) ?_ _
    rw [hbody]
    exact Attitude.isProper_ofAngles _ _
  · refine panel_after (P := fun p => p.accelerometer.triad.Direct)
      (fun p o hp => Accelerometer.direct_run hp _) (fun p hp => hp.reset) ?_ _
    rw [haccelerometer]
    exact Triad.direct_of_build htriad hwindow hsilent

theorem Sensing.read_run (h : a.Sensing c r) (hrun : a.run ctx input = .ok (a', events))
    (hstill : a.body.angularVelocity = 0) (htorque : (a.given a' ctx input).wrench.torque = 0)
    (hundisturbed : a.body.Undisturbed (a.given a' ctx input)) :
    let given := a.given a' ctx input
    a'.panel.read .accelerometer = .accelerometer
      ((a.body.forces (given.weather.getD .standard) given.wrench.thrust).contact a.body.angles
        a.body.velocity / c.mass) := by
  have hmass : a.body.airframe.mass = c.mass := congrArg (·.mass) h.builtFrom.body.1
  have hforce := RigidBody.specificForce_integrate hstill htorque h.attitude
    (by rw [hmass]; exact h.builtFrom.mass_pos.ne')
    (by rw [h.builtFrom.dt_body]; exact h.builtFrom.timeStep_pos.ne') h.previous
    h.builtFrom.accelerometer.1 h.builtFrom.accelerometer.2
  obtain ⟨hbody, hpanel⟩ := body_run hrun
  rw [hundisturbed.run h.pending] at hbody
  rw [← hbody, ← Accelerometer.value_run h.direct, hmass] at hforce
  rw [hpanel]
  exact congrArg Reading.accelerometer hforce

/-- After any history, let a tick be followed by another one in which the body does not turn and is
moved by its integration alone.  An accelerometer without noise that averages nothing then shows the
thrust, the drag and the force of a surface in the body frame, per mass; and nothing at all in free
fall. -/
theorem accelerometer_shows_force {built : Aircraft ℝ} (hbuild : build c r = .ok (built, events))
    (hwindow : c.instruments.accelerometer.sampleCount = 1)
    (hsilent : c.instruments.accelerometer.noiseVariance ≤ 0) (ops : List (Operation ℝ))
    {ctx' : TickContext} {input' : AircraftInput ℝ} {first second : Aircraft ℝ}
    {told told' : List (Event ℝ)} (hfirst : (built.after ops).run ctx input = .ok (first, told))
    (hsecond : first.run ctx' input' = .ok (second, told')) :
    let body := first.body
    let given := first.given second ctx' input'
    let weather := given.weather.getD .standard
    let toBody := body.attitude.rotation.transpose
    let force := Vec3.vertical (-given.wrench.thrust) +
      c.drag.force (body.velocity - toBody.apply weather.wind) +
      toBody.apply (body.surfaceForce weather given.wrench.thrust)
    body.angularVelocity = 0 → given.wrench.torque = 0 → body.Undisturbed given →
      second.panel.read .accelerometer = .accelerometer (force / c.mass) ∧
        (c.drag = 0 → given.wrench.thrust = 0 →
          second.panel.read .accelerometer = .accelerometer 0) := by
  intro body given weather toBody force hstill htorque hundisturbed
  have hsensing := sensing_of_run hbuild hwindow hsilent ops hfirst
  have hread := hsensing.read_run hsecond hstill htorque hundisturbed
  have hforce : (body.forces weather given.wrench.thrust).contact body.angles body.velocity =
      force := by
    have hdrag : body.airframe.drag = c.drag := congrArg (·.drag) hsensing.builtFrom.body.1
    rw [Forces.contact, Forces.airVelocity, RigidBody.angles, hsensing.attitude.rotation_angles]
    simp only [RigidBody.forces, hdrag]
    rfl
  refine ⟨hread.trans (by rw [hforce]), fun hdrag hthrust => ?_⟩
  have hzero : force / c.mass = 0 := by
    simp only [force, hdrag, hthrust, Drag.zero_force, RigidBody.surfaceForce_zero,
      Mat3.apply_zero]
    ext <;> simp
  rw [hread, hforce, hzero]

/-! ## A gust -/

/-- The standard aircraft high above the ground, where there may be weather. -/
noncomputable def aloft : Configuration ℝ :=
  { Configuration.standard with startPosition := ⟨0, 0, -100⟩, useWeather := true }

theorem exists_build_aloft (r : Randomness ℝ) : ∃ built, build aloft r = .ok built := by
  have hcheck : aloft.check = .ok () :=
    Configuration.check_standard (p := Configuration.standard.instruments) rfl none
  exact exists_build_of_rotors hcheck rfl rfl r

theorem body_aloft {built : Aircraft ℝ} (h : build aloft r = .ok (built, events)) :
    built.body =
      { airframe := aloft.airframe
        options := aloft.bodyOptions
        dt := 0.001
        position := ⟨0, 0, -100⟩
        velocity := 0
        angularVelocity := 0
        acceleration := 0
        attitude := .euler ⟨0, 0, 0⟩
        start := { position := ⟨0, 0, -100⟩, velocity := 0, angularVelocity := 0 }
        startAngles := 0
        pending := none } := by
  obtain ⟨-, -, hbody⟩ := RigidBody.atRest_eq_ok (assembly_of_build h).body
  have hlevel : aloft.startAttitude = 0 := Configuration.startAttitude_standard
  rw [hbody, hlevel]
  rfl

/-- The aircraft hovers for a tick and is then caught by a gust while it loses half of its
thrust. -/
theorem accelerometer_shows_force_gust :
    let ctx : TickContext := { time := 0, useWeather := true, trace := false }
    let hover : AircraftInput ℝ :=
      { AircraftInput.none with wrench := some { thrust := 9.81, torque := 0 } }
    let gust : AircraftInput ℝ :=
      { AircraftInput.none with
        weather := some { Weather.standard with wind := ⟨2, 0, 0⟩ }
        wrench := some { thrust := 5, torque := 0 } }
    let r : Randomness ℝ := .boxMuller fun _ _ => 0
    ∃ built events first told second told', build aloft r = .ok (built, events) ∧
      built.run ctx hover = .ok (first, told) ∧ first.run ctx gust = .ok (second, told') ∧
        second.panel.read .accelerometer = .accelerometer ⟨0.1, 0, -5⟩ := by
  intro ctx hover gust r
  obtain ⟨⟨built, events⟩, hbuild⟩ := exists_build_aloft r
  obtain ⟨⟨first, told⟩, hfirst⟩ : ∃ r, built.run ctx hover = .ok r :=
    (exists_run_iff ctx).2 fun _ h => nomatch h
  obtain ⟨⟨second, told'⟩, hsecond⟩ : ∃ r, first.run ctx gust = .ok r :=
    (exists_run_iff ctx).2 fun _ h => nomatch h
  refine ⟨built, events, first, told, second, told', hbuild, hfirst, hsecond, ?_⟩
  have hstart := body_aloft hbuild
  have hpoised : built.body.Poised := by
    rw [hstart]
    exact
      { velocity := rfl
        angularVelocity := rfl
        attitude := trivial
        roll := rfl
        pitch := rfl
        yaw := ⟨neg_lt_zero.2 Real.pi_pos, Real.pi_pos.le⟩
        height := fun _ => by norm_num
        bounds := nofun
        pending := rfl }
  have hbody : first.body = built.body := by
    obtain ⟨hrun, -⟩ := body_run hfirst
    have hcarried : (9.81 : ℝ) = built.body.airframe.mass * built.body.airframe.gravity := by
      rw [hstart]
      norm_num [aloft, Configuration.airframe, Configuration.standard, standardGravity]
    rw [hrun, hpoised.run (by rw [hstart]; rfl) (ite_self _) (by rw [← hcarried]; rfl), hstart]
  have hgiven : first.given second ctx gust =
      { wrench := { thrust := 5, torque := 0 }, manual := none, weather := gust.weather } := by
    have hfrom := (sensing_of_run hbuild rfl (le_refl (0 : ℝ)) [] hfirst).builtFrom
    rw [given, effectiveWeather, hfrom.config]
    rfl
  have hundisturbed : first.body.Undisturbed (first.given second ctx gust) := by
    rw [hgiven, hbody, hstart]
    refine ⟨rfl, ?_, rfl⟩
    -- The velocity from before the tick moves the body, which is none.
    refine (if_pos rfl).trans (RigidBody.holdAboveGround_of_not_sinks
      (RigidBody.not_sinks_iff.2 (.inl ?_)))
    rw [RigidBody.position_integrate]
    change -100 + ((Euler.rotation ⟨0, 0, 0⟩).apply (0 : Vec3 ℝ)).z * 0.001 < 0
    rw [Mat3.apply_zero]
    norm_num
  obtain ⟨hread, -⟩ := accelerometer_shows_force hbuild rfl (le_refl (0 : ℝ)) [] hfirst hsecond
    (by rw [hbody, hpoised.angularVelocity]) rfl hundisturbed
  rw [hread, hgiven, hbody, hstart]
  refine congrArg Reading.accelerometer ?_
  ext <;> norm_num [gust, aloft, Configuration.standard, Configuration.bodyOptions,
    RigidBody.surfaceForce, Attitude.rotation, Euler.rotation, Mat3.transpose, Mat3.apply, Vec3.dot,
    Drag.force, Vec3.map]

end Aircraft

end Multirotor
