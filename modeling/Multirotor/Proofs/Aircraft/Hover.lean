import Multirotor.Proofs.Aircraft.Divisors
import Multirotor.Proofs.Aircraft.Pending
import Multirotor.Proofs.Aircraft.Reset
import Multirotor.Proofs.Body.Poised
import Multirotor.Proofs.Mixing.Steady
import Multirotor.Proofs.Pilot.Idle

/-!
# Hovering

An aircraft that stands still and level, with its rotors at the speed that carries it and half duty
for each of them, stays so: the lag of the rotors is at rest (`Rotor.run_steady`), their wrench is
the weight, which leaves a poised body where it is (`RigidBody.Poised.run`), the autopilot asks for
the weight again (`Autopilot.run_on_target`), and balanced rotors share it at half duty.
`Hovering` is what a tick preserves, and the run of any length follows by induction on its ticks.
-/

namespace Multirotor

open Scalar

/-! ## Configurations that can hover -/

/-- No integral term of the pilot leaves zero by itself. -/
structure PilotParameters.CanRest (p : PilotParameters ℝ) : Prop where
  climbRate : p.climbRate.CanRest
  velocity : p.velocity.CanRest
  rollRate : p.rollRate.CanRest
  pitchRate : p.pitchRate.CanRest
  yawRate : p.yawRate.CanRest

namespace Configuration

/-- A scripted autopilot with balanced rotors that follow their duties with a lag. -/
structure CanHover (c : Configuration ℝ) : Prop where
  battery : c.battery = none
  directDuties : c.directDuties = false
  mode : c.mode = .scripted
  limits : c.pilot.NonnegLimits
  balanced : Mixer.Balanced c.mounts

/-- The wrench that carries the aircraft. -/
def weight {α : Type} [Scalar α] (c : Configuration α) : Wrench α :=
  { thrust := c.mass * c.gravity, torque := 0 }

end Configuration

namespace Aircraft

variable {c : Configuration ℝ} {r : Randomness ℝ} {a : Aircraft ℝ}

/-! ## Half duty -/

/-- What the numbers of a configuration are known to be when it builds and can hover. -/
structure Powered (c : Configuration ℝ) : Prop where
  mass : 0 < c.mass
  gravity : 0 < c.gravity
  thrustCoefficient : 0 < c.rotor.thrustCoefficient
  timeConstant : 0 < c.rotorTimeConstant
  hoverSpeed : 0 < c.hoverSpeed
  rotors : 4 ≤ c.rotorCount.toNat
  mounts : c.mounts.length = c.rotorCount.toNat

theorem BuiltFrom.lag (hc : c.CanHover) (h : a.BuiltFrom c r) {rotor : Rotor ℝ}
    (hr : rotor ∈ a.rotors) :
    0 < c.rotorTimeConstant ∧
      rotor.drive = .lag (c.maxRotorSpeed / c.rotorTimeConstant) c.rotorTimeConstant := by
  have hbuild := h.rotor hr
  simp only [buildRotor, hc.battery] at hbuild
  obtain ⟨-, hconstant, hreset⟩ := Rotor.lag_eq_ok hbuild
  exact ⟨not_le.1 hconstant, congrArg (·.drive) hreset⟩

theorem BuiltFrom.powered (hc : c.CanHover) (h : a.BuiltFrom c r) : Powered c := by
  obtain ⟨_, _, -, hbuild⟩ := id h
  obtain ⟨hguarded, hfour, hspeed⟩ := guarded_of_build_exact hbuild
  have hlength : a.rotors.length = (a.reset.1).rotors.length := (List.length_map _).symm
  have hspeed := hspeed hc.directDuties
  simp only [hc.battery, Configuration.maxRotorSpeed, two_real] at hspeed
  obtain ⟨r, hr⟩ := List.exists_mem_of_length_pos (l := a.rotors) (by omega)
  exact
    { mass := hguarded.mass
      gravity := hguarded.gravity hc.directDuties
      thrustCoefficient := hguarded.thrustCoefficient
      timeConstant := (h.lag hc hr).1
      hoverSpeed := by linarith
      rotors := by rw [← hguarded.rotors]; exact hfour
      mounts := (assembly_of_build hbuild).checkRotorCount }

variable {m : Mixer ℝ}

theorem hoverSpeed_mul_self (hp : Powered c) : c.hoverSpeed * c.hoverSpeed =
    c.mass * c.gravity / (c.rotor.thrustCoefficient * c.rotorCount.toNat) := by
  have hmass := hp.mass
  have hgravity := hp.gravity
  have hcoefficient := hp.thrustCoefficient
  exact Real.mul_self_sqrt (by positivity)

/-- The rotors can pull with four times the weight. -/
theorem maxThrust_eq (hp : Powered c) : c.maxThrust = 4 * (c.mass * c.gravity) := by
  have hcount : (c.rotorCount.toNat : ℝ) ≠ 0 :=
    Nat.cast_ne_zero.2 (Nat.pos_of_ne_zero (by have := hp.rotors; omega)).ne'
  have hload : c.rotor.thrustCoefficient * c.rotorCount.toNat ≠ 0 :=
    mul_ne_zero hp.thrustCoefficient.ne' hcount
  calc c.maxThrust
      = 4 * (c.rotor.thrustCoefficient * c.rotorCount.toNat * (c.hoverSpeed * c.hoverSpeed)) := by
        rw [Configuration.maxThrust, Configuration.maxRotorSpeed, two_real]
        ring
    _ = 4 * (c.mass * c.gravity) := by rw [hoverSpeed_mul_self hp, mul_div_cancel₀ _ hload]

theorem squaredSpeeds_weight (hc : c.CanHover) (hp : Powered c)
    (hm : Mixer.build c.mounts c.rotor c.dutyCurve = .ok m) :
    m.squaredSpeeds c.weight = List.replicate c.mounts.length (c.hoverSpeed * c.hoverSpeed) := by
  have hne : c.mounts ≠ [] :=
    List.ne_nil_of_length_pos (by have := hp.rotors; have := hp.mounts; omega)
  rw [hoverSpeed_mul_self hp, ← hp.mounts]
  exact Mixer.squaredSpeeds_of_balanced hm hc.balanced hp.thrustCoefficient.ne' hne _

/-- The rotors run at half of their greatest speed. -/
theorem duty_hoverSpeed (hc : c.CanHover) (hp : Powered c) :
    c.dutyCurve.duty c.hoverSpeed = 1 / 2 := by
  have hspeed := hp.hoverSpeed
  simp only [Configuration.dutyCurve, hc.battery, DutyCurve.duty, Configuration.maxRotorSpeed,
    two_real]
  field_simp

theorem attains_weight (hc : c.CanHover) (hp : Powered c)
    (hm : Mixer.build c.mounts c.rotor c.dutyCurve = .ok m) : m.Attains c.weight := by
  rw [Mixer.attains_iff, squaredSpeeds_weight hc hp hm, Mixer.curve_eq hm]
  intro u hu
  obtain rfl := List.eq_of_mem_replicate hu
  refine ⟨mul_self_nonneg _, ?_⟩
  rw [Real.sqrt_mul_self hp.hoverSpeed.le, duty_hoverSpeed hc hp]
  norm_num

theorem duties_weight (hc : c.CanHover) (hp : Powered c)
    (hm : Mixer.build c.mounts c.rotor c.dutyCurve = .ok m) :
    m.duties c.weight = List.replicate c.mounts.length (1 / 2) := by
  have hclamp : clamp (1 / 2 : ℝ) 0 1 = 1 / 2 := clamp_of_mem _ (by norm_num) (by norm_num)
  simp only [Mixer.duties, Mixer.wantedDuties, Mixer.speeds, squaredSpeeds_weight hc hp hm,
    List.map_replicate, sqrtOrZero_real, Real.sqrt_mul_self hp.hoverSpeed.le, Mixer.curve_eq hm,
    duty_hoverSpeed hc hp, hclamp]

/-! ## Hovering -/

/-- The body is poised, the rotors carry it, and the autopilot has nothing to do. -/
structure Hovering (c : Configuration ℝ) (a : Aircraft ℝ) : Prop where
  body : a.body.Poised
  speeds : ∀ r ∈ a.rotors, r.spin.speed = c.hoverSpeed
  duties : a.duties = List.replicate a.rotors.length (1 / 2)
  idle : a.autopilot.Idle
  waypoint : ∀ w ∈ a.autopilot.waypoint, w.Marks a.body.position a.body.angles.yaw

/-- A tick in which nobody interferes and no target leads away from a pose. -/
structure Quiet (c : Configuration ℝ) (position : Vec3 ℝ) (yaw : ℝ) (ctx : TickContext)
    (input : AircraftInput ℝ) : Prop where
  duties : input.Fits c.rotorCount.toNat
  manual : c.manualControl = true → input.manual = none
  weather : c.useWeather = true → ctx.useWeather = true → input.weather = none
  wrench : input.wrench = none
  target : ∀ w ∈ input.target.bind Target.waypoint?, w.Marks position yaw

theorem Hovering.aligned (h : a.Hovering c) (hb : a.BuiltFrom c r) : a.Aligned :=
  hb.aligned (by rw [h.duties, List.length_replicate])

/-- Hovering rotors keep their speed and carry the aircraft. -/
theorem Hovering.spinRotors (h : a.Hovering c) (hc : c.CanHover) (hb : a.BuiltFrom c r) :
    (a.spinRotors none).rotors.length = a.rotors.length ∧
      (∀ r ∈ (a.spinRotors none).rotors, r.spin.speed = c.hoverSpeed) ∧
      (a.spinRotors none).propulsion.wrench = c.weight := by
  have hp := hb.powered hc
  have hm := hb.mixer
  have hlength : a.rotors.length = c.mounts.length := hb.length_rotors.trans hp.mounts.symm
  have hduties : a.duties = a.autopilot.mixer.duties c.weight := by
    rw [h.duties, duties_weight hc hp hm, hlength]
  have hspeeds : a.rotors.map (·.spin.speed) =
      (a.autopilot.mixer.squaredSpeeds c.weight).map (√·) := by
    rw [squaredSpeeds_weight hc hp hm, List.map_replicate, Real.sqrt_mul_self hp.hoverSpeed.le]
    refine List.eq_replicate_iff.2 ⟨by rw [List.length_map, hlength], ?_⟩
    simpa using h.speeds
  have hcurve : a.autopilot.mixer.curve = .proportional c.maxRotorSpeed := by
    rw [Mixer.curve_eq hm, Configuration.dutyCurve, hc.battery]
  have hmax : 0 < c.maxRotorSpeed := by
    rw [Configuration.maxRotorSpeed, two_real]
    exact mul_pos two_pos hp.hoverSpeed
  obtain ⟨hdriven, hsteady⟩ := Mixer.run_duties (hcurve ▸ hmax) (attains_weight hc hp hm)
    (fun r hr => hcurve ▸ ⟨_, hb.lag hc hr⟩) hspeeds
  rw [← hduties] at hdriven hsteady
  refine ⟨?_, fun r hr => ?_, ?_⟩
  · exact length_spinRotors (h.aligned hb) none
  · have hmem : r.spin.speed ∈ a.rotors.map (·.spin.speed) := by
      rw [hspeeds, ← hdriven]
      exact List.mem_map_of_mem hr
    obtain ⟨r', hr', hspeed⟩ := List.mem_map.1 hmem
    rw [← hspeed, h.speeds r' hr']
  · have hmounts : a.propulsion.mounts = c.mounts := congrArg (·.mounts) hb.propulsion
    have hconstants : a.propulsion.constants = c.rotor := congrArg (·.constants) hb.propulsion
    refine Mixer.wrenchOf_eq_demand (p := a.propulsion) (hmounts ▸ hconstants ▸ hm)
      (attains_weight hc hp hm) ?_ ?_
    · rw [← hdriven, List.map_map]
      rfl
    · intro s hs
      obtain ⟨r, hr, rfl⟩ := List.mem_map.1 hs
      exact hsteady r hr

theorem Quiet.effectiveWeather {ctx : TickContext} {input : AircraftInput ℝ} {position : Vec3 ℝ}
    {yaw : ℝ} (hq : Quiet c position yaw ctx input) (hb : a.BuiltFrom c r) :
    a.effectiveWeather ctx input = none := by
  unfold Aircraft.effectiveWeather
  rw [hb.config]
  split_ifs with hw
  · obtain ⟨hc, hctx⟩ := Bool.and_eq_true_iff.1 hw
    exact hq.weather hc hctx
  · rfl

section Tick

variable {ctx : TickContext} {input : AircraftInput ℝ}

/-- In a quiet tick the body stays where it is. -/
theorem Hovering.run_body (h : a.Hovering c) (hc : c.CanHover) (hb : a.BuiltFrom c r)
    (hq : Quiet c a.body.position a.body.angles.yaw ctx input) :
    (a.body.run (a.bodyInput ctx input)).1 = { a.body with acceleration := 0 } := by
  obtain ⟨hairframe, hoptions⟩ := hb.body
  have hweather := hq.effectiveWeather hb
  obtain ⟨-, -, hwrench⟩ := h.spinRotors hc hb
  refine h.body.run ?_ hweather ?_
  · unfold RigidBody.placement
    rw [hoptions]
    split_ifs with hmanual
    · exact hq.manual hmanual
    · rfl
  · simp only [bodyInput, hq.wrench, Option.getD_none, hweather, hwrench, hairframe]
    rfl

theorem Hovering.observed (h : a.Hovering c) (hc : c.CanHover) (hb : a.BuiltFrom c r)
    (hq : Quiet c a.body.position a.body.angles.yaw ctx input) :
    a.observed ctx input = { a with body := { a.body with acceleration := 0 } }.observe none := by
  rw [Aircraft.observed, h.run_body hc hb hq, hq.effectiveWeather hb]

theorem Hovering.onTarget (h : a.Hovering c) (hc : c.CanHover) (hb : a.BuiltFrom c r)
    (hq : Quiet c a.body.position a.body.angles.yaw ctx input) :
    a.autopilot.OnTarget (a.observed ctx input) input.target := by
  rw [h.observed hc hb hq]
  exact
    { still := ⟨h.body.groundVelocity, h.body.angularVelocity, h.body.roll, h.body.pitch⟩
      target := hq.target
      held := h.waypoint }

/-- In a quiet tick only the loop of the climb rate can make the autopilot ask for anything but the
weight. -/
theorem Hovering.steered (h : a.Hovering c) (hc : c.CanHover) (hb : a.BuiltFrom c r)
    (hvelocity : c.pilot.velocity.CanRest) (hroll : c.pilot.rollRate.CanRest)
    (hpitch : c.pilot.pitchRate.CanRest) (hyaw : c.pilot.yawRate.CanRest)
    (hq : Quiet c a.body.position a.body.angles.yaw ctx input) :
    let climbed := a.autopilot.climb.loop.update 0 0 a.autopilot.climb.isLimited
    let after := (a.steered ctx input).2
    (a.steered ctx input).1.demand =
        { thrust := clamp (c.mass * (c.gravity + climbed.1)) 0 c.maxThrust, torque := 0 } ∧
      after.climb.loop = climbed.2 ∧ after.travel.Idle ∧ after.turn.Idle ∧
      ∀ w ∈ after.waypoint, w.Marks a.body.position a.body.angles.yaw := by
  intro climbed after
  have hstart : a.autopilot.reset =
      .start .scripted c.pilot c.airframe c.maxThrust a.autopilot.mixer c.timeStep := by
    rw [hb.autopilot, hc.mode]
  have htarget := h.onTarget hc hb hq
  obtain ⟨hdemand, hclimb, htravel, hturn, hwaypoint⟩ :=
    Autopilot.run_on_target hstart hc.limits hvelocity hroll hpitch hyaw h.idle htarget
  refine ⟨hdemand, hclimb, htravel, hturn, fun w hw => ?_⟩
  obtain rfl : a.autopilot.followed (a.observed ctx input) input.target = w :=
    Option.some.inj (hwaypoint.symm.trans hw)
  have hmarks := htarget.marks_followed
  rwa [h.observed hc hb hq] at hmarks ⊢

/-- A quiet tick of a hovering aircraft. -/
theorem Hovering.fly (h : a.Hovering c) (hc : c.CanHover) (hr : c.pilot.CanRest)
    (hb : a.BuiltFrom c r) (hq : Quiet c a.body.position a.body.angles.yaw ctx input) :
    let next := (a.fly ctx input).1
    next.Hovering c ∧ next.body = { a.body with acceleration := 0 } ∧ next.demand = c.weight := by
  intro next
  have hp := hb.powered hc
  obtain ⟨hlength, hspeeds, -⟩ := h.spinRotors hc hb
  obtain ⟨hdemand, hclimb, htravel, hturn, hwaypoint⟩ :=
    h.steered hc hb hr.velocity hr.rollRate hr.pitchRate hr.yawRate hq
  have hgains : a.autopilot.climb.loop.gains = c.pilot.climbRate :=
    congrArg (·.climb.loop.gains) hb.autopilot
  obtain ⟨hzero, hloop⟩ := h.idle.climb.update (hgains ▸ hr.climbRate) a.autopilot.climb.isLimited
  have hdemand : (a.steered ctx input).1.demand = c.weight := by
    have hweight : 0 < c.mass * c.gravity := mul_pos hp.mass hp.gravity
    rw [hdemand, hzero, add_zero, maxThrust_eq hp, clamp_of_mem _ hweight.le (by linarith)]
    rfl
  have hduties : (a.steered ctx input).1.duties = List.replicate a.rotors.length (1 / 2) := by
    rw [Aircraft.steered, Autopilot.duties_run, ← Aircraft.steered, hdemand,
      duties_weight hc hp hb.mixer, hp.mounts, hb.length_rotors]
  have hdirect : a.config.directDuties = false := by rw [hb.config, hc.directDuties]
  have hnext : next = _ := fly_fst a ctx input
  simp only [hdirect, Bool.false_eq_true, if_false, h.run_body hc hb hq,
    hq.effectiveWeather hb] at hnext
  rw [hnext]
  refine ⟨?_, rfl, hdemand⟩
  exact
    { body := h.body.withAcceleration 0
      speeds := hspeeds
      duties := hduties.trans (by rw [hlength])
      idle := ⟨hclimb ▸ hloop, htravel, hturn⟩
      waypoint := hwaypoint }

theorem Hovering.perform (h : a.Hovering c) (hc : c.CanHover) (hr : c.pilot.CanRest)
    (hb : a.BuiltFrom c r) (hq : Quiet c a.body.position a.body.angles.yaw ctx input) :
    let next := (a.perform (.run ctx input)).aircraft
    (a.perform (.run ctx input)).fault = none ∧ next.Hovering c ∧ next.BuiltFrom c r ∧
      next.body = { a.body with acceleration := 0 } ∧ next.demand = c.weight := by
  have hdirect : a.config.directDuties = false := by rw [hb.config, hc.directDuties]
  have hbuilt := hb.perform (h.aligned hb) (.run ctx input)
  rw [perform_of_fits ctx hdirect (by rw [hb.length_rotors]; exact hq.duties)] at hbuilt ⊢
  obtain ⟨hnext, hbody, hdemand⟩ := h.fly hc hr hb hq
  exact ⟨rfl, hnext, hbuilt, hbody, hdemand⟩

end Tick

/-! ## Hovering for any time -/

/-- As long as nobody interferes, a hovering aircraft stays where it is. -/
theorem hovering_fixed (hc : c.CanHover) (hr : c.pilot.CanRest) (hb : a.BuiltFrom c r)
    (h : a.Hovering c) (ticks : List (TickContext × AircraftInput ℝ))
    (hq : ∀ tick ∈ ticks, Quiet c a.body.position a.body.angles.yaw tick.1 tick.2) :
    ∀ r ∈ a.history (ticks.map fun tick => .run tick.1 tick.2),
      r.fault = none ∧ r.aircraft.body.position = a.body.position ∧
      r.aircraft.body.velocity = 0 ∧ r.aircraft.body.angularVelocity = 0 ∧
      r.aircraft.body.attitude = a.body.attitude ∧
      r.aircraft.rotors.map (·.spin.speed) = List.replicate c.rotorCount.toNat c.hoverSpeed ∧
      r.aircraft.duties = List.replicate c.rotorCount.toNat (1 / 2) ∧
      r.aircraft.demand = { thrust := c.mass * c.gravity, torque := 0 } := by
  induction ticks generalizing a with
  | nil => simp [history]
  | cons tick ticks ih =>
    obtain ⟨hfault, hnext, hbuilt, hbody, hdemand⟩ :=
      h.perform hc hr hb (hq tick List.mem_cons_self)
    have hposition : (a.perform (.run tick.1 tick.2)).aircraft.body.position = a.body.position := by
      rw [hbody]
    have hattitude : (a.perform (.run tick.1 tick.2)).aircraft.body.attitude = a.body.attitude := by
      rw [hbody]
    rw [List.map_cons, history, List.forall_mem_cons]
    constructor
    · have hspeeds : (a.perform (.run tick.1 tick.2)).aircraft.rotors.map (·.spin.speed) =
          List.replicate c.rotorCount.toNat c.hoverSpeed := by
        refine List.eq_replicate_iff.2 ⟨by rw [List.length_map, hbuilt.length_rotors], ?_⟩
        simpa using hnext.speeds
      have hduties := hnext.duties
      rw [hbuilt.length_rotors] at hduties
      exact ⟨hfault, hposition, hnext.body.velocity, hnext.body.angularVelocity, hattitude, hspeeds,
        hduties, hdemand⟩
    · have hrest := ih hbuilt hnext fun t ht => by
        rw [hposition, RigidBody.angles, hattitude]
        exact hq t (List.mem_cons_of_mem _ ht)
      rwa [hposition, hattitude] at hrest

/-! ## The standard aircraft -/

/-- The aircraft with its rotors at the speed that carries it, under half duty. -/
def hover {α : Type} [Scalar α] (a : Aircraft α) : Aircraft α :=
  { a with
    rotors := a.rotors.map fun r => { r with spin := { r.spin with speed := a.config.hoverSpeed } }
    duties := List.replicate a.rotors.length 0.5 }

/-- The standard configuration under another pilot. -/
def flownBy {α : Type} [Scalar α] (p : PilotParameters α) : Configuration α :=
  { Configuration.standard with pilot := p }

theorem builtFrom_hover {c : Configuration ℝ} {a : Aircraft ℝ} {events : List (Event ℝ)}
    (h : build c r = .ok (a, events)) : a.hover.BuiltFrom c r := by
  have hreset : a.hover.reset.1 = a.reset.1 := by
    simp only [reset, hover, List.map_map, List.length_map]
    rfl
  rw [BuiltFrom, hreset]
  exact builtFrom_of_build h

theorem exists_build_flownBy (p : PilotParameters ℝ) (r : Randomness ℝ) :
    ∃ built, build (flownBy p) r = .ok built :=
  exists_build_of_rotors (c := flownBy p)
    (Configuration.check_standard (p := Configuration.standard.instruments) rfl none) rfl rfl r

variable {p : PilotParameters ℝ}

theorem canHover_flownBy (hp : p.NonnegLimits) : (flownBy p).CanHover where
  battery := rfl
  directDuties := rfl
  mode := rfl
  limits := hp
  balanced := by constructor <;> simp [flownBy, Configuration.standard]

section Built

variable {events : List (Event ℝ)} (h : build (flownBy p) r = .ok (a, events))

include h

theorem pose_flownBy : a.body.position = 0 ∧ a.body.angles = 0 := by
  obtain ⟨-, -, hbody⟩ := RigidBody.atRest_eq_ok (assembly_of_build h).body
  have hzero : radians (0 : ℝ) = 0 := zero_mul _
  rw [hbody]
  refine ⟨rfl, ?_⟩
  change (⟨radians 0, radians 0, radians 0⟩ : Euler ℝ) = ⟨0, 0, 0⟩
  rw [hzero]

theorem poised_flownBy : a.body.Poised := by
  obtain ⟨hposition, hangles⟩ := pose_flownBy h
  obtain ⟨-, -, hbody⟩ := RigidBody.atRest_eq_ok (assembly_of_build h).body
  exact
    { velocity := congrArg (·.velocity) hbody
      angularVelocity := congrArg (·.angularVelocity) hbody
      attitude := by rw [hbody]; trivial
      roll := congrArg (·.roll) hangles
      pitch := congrArg (·.pitch) hangles
      yaw := by rw [hangles]; exact ⟨neg_lt_zero.2 Real.pi_pos, Real.pi_pos.le⟩
      height := fun _ => (congrArg (·.z) hposition).le
      bounds := by rw [hbody]; exact nofun
      pending := congrArg (·.pending) hbody }

theorem hovering_hover : a.hover.Hovering (flownBy p) := by
  have hasm := assembly_of_build h
  have hbody : a.body.Poised := poised_flownBy h
  have hidle : a.autopilot.Idle := by
    rw [hasm.autopilot]
    exact ⟨Pid.idle_start _ _, ⟨Pid.idle_start _ _, Pid.idle_start _ _⟩,
      ⟨Pid.idle_start _ _, Pid.idle_start _ _, Pid.idle_start _ _⟩⟩
  have hwaypoint : a.autopilot.waypoint = none := congrArg (·.waypoint) hasm.autopilot
  refine ⟨hbody, fun r hr => ?_, by simp [hover], hidle, ?_⟩
  · obtain ⟨r', -, rfl⟩ := List.mem_map.1 hr
    rw [← hasm.config]
  · change ∀ w ∈ a.autopilot.waypoint, _
    rw [hwaypoint]
    exact nofun

/-- To be told nothing, or to go to the origin, is to be told to stay. -/
theorem quiet_flownBy (ctx : TickContext) {input : AircraftInput ℝ}
    (hinput : input ∈ [.none, { AircraftInput.none with target := some (.waypoint .origin) }]) :
    Quiet (flownBy p) a.hover.body.position a.hover.body.angles.yaw ctx input := by
  obtain ⟨hposition, hangles⟩ := pose_flownBy h
  change Quiet _ a.body.position a.body.angles.yaw ctx input
  rw [hposition, hangles]
  rcases List.mem_pair.1 hinput with rfl | rfl
  · exact ⟨nofun, fun _ => rfl, fun _ _ => rfl, rfl, nofun⟩
  · refine ⟨nofun, fun _ => rfl, fun _ _ => rfl, rfl, ?_⟩
    rintro _ ⟨⟩
    exact ⟨rfl, rfl, neg_zero.symm, rfl⟩

end Built

/-- The standard aircraft hovers at its start, told to do so or not. -/
theorem hovering_fixed_standard :
    let ctx : TickContext := { time := 0, useWeather := true, trace := false }
    let stay : AircraftInput ℝ := { AircraftInput.none with target := some (.waypoint .origin) }
    let r : Randomness ℝ := .boxMuller fun _ _ => 0
    ∃ a events, build (Configuration.standard : Configuration ℝ) r = .ok (a, events) ∧
      ∀ r ∈ a.hover.history [.run ctx .none, .run ctx stay, .run ctx .none],
        r.aircraft.body.position = 0 ∧ r.aircraft.demand = { thrust := 1 * 9.81, torque := 0 } := by
  intro ctx stay r
  obtain ⟨⟨a, events⟩, h⟩ := exists_build_flownBy PilotParameters.standard r
  have hlimits : (PilotParameters.standard : PilotParameters ℝ).NonnegLimits := by
    constructor <;> norm_num [PilotParameters.standard]
  have hrest : (PilotParameters.standard : PilotParameters ℝ).CanRest := by
    constructor <;>
      norm_num [PilotParameters.standard, PidGains.CanRest, PidGains.onlyProportional]
  have hquiet : ∀ tick ∈ [(ctx, .none), (ctx, stay), (ctx, .none)],
      Quiet (flownBy .standard) a.hover.body.position a.hover.body.angles.yaw tick.1 tick.2 := by
    intro tick htick
    have hinput : tick.2 ∈ [.none, stay] := by
      simp only [List.mem_cons, List.not_mem_nil, or_false] at htick ⊢
      rcases htick with rfl | rfl | rfl <;> simp
    exact quiet_flownBy h tick.1 hinput
  have hfixed := hovering_fixed (canHover_flownBy hlimits) hrest (builtFrom_hover h)
    (hovering_hover h) _ hquiet
  refine ⟨a, events, h, fun r hr => ?_⟩
  obtain ⟨-, hposition, -, -, -, -, -, hdemand⟩ := hfixed r hr
  exact ⟨hposition.trans (pose_flownBy h).1, hdemand⟩

/-- With a bound below zero on the integral term of the climb rate, the standard aircraft asks for
less than its weight in the first tick of hovering, although nobody interferes. -/
theorem demand_hover_of_negative_bound :
    let p : PilotParameters ℝ :=
      { PilotParameters.standard with
        climbRate := { PilotParameters.standard.climbRate with integralMax := -1 } }
    let ctx : TickContext := { time := 0, useWeather := true, trace := false }
    let r : Randomness ℝ := .boxMuller fun _ _ => 0
    (flownBy p).CanHover ∧ ∃ a events, build (flownBy p) r = .ok (a, events) ∧
      a.hover.BuiltFrom (flownBy p) r ∧ a.hover.Hovering (flownBy p) ∧
      Quiet (flownBy p) a.hover.body.position a.hover.body.angles.yaw ctx .none ∧
      (a.hover.perform (.run ctx .none)).aircraft.demand = { thrust := 8.81, torque := 0 } ∧
      (flownBy p).mass * (flownBy p).gravity = 9.81 := by
  intro p ctx r
  obtain ⟨⟨a, events⟩, h⟩ := exists_build_flownBy p r
  have hlimits : p.NonnegLimits := by constructor <;> norm_num [p, PilotParameters.standard]
  have hc := canHover_flownBy hlimits
  have hb := builtFrom_hover h
  have hhover := hovering_hover h
  have hquiet : Quiet (flownBy p) a.hover.body.position a.hover.body.angles.yaw ctx .none :=
    quiet_flownBy h ctx List.mem_cons_self
  have hweight : (flownBy p).mass * (flownBy p).gravity = 9.81 := by
    norm_num [flownBy, Configuration.standard, standardGravity]
  refine ⟨hc, a, events, h, hb, hhover, hquiet, ?_, hweight⟩
  have hdirect : a.hover.config.directDuties = false := by rw [hb.config, hc.directDuties]
  have hacceleration :
      (a.hover.autopilot.climb.loop.update 0 0 a.hover.autopilot.climb.isLimited).1 = -1 := by
    have hclimb : a.hover.autopilot.climb.loop = .start p.climbRate (flownBy p).timeStep ∧
        a.hover.autopilot.climb.isLimited = false := by
      change a.autopilot.climb.loop = _ ∧ a.autopilot.climb.isLimited = _
      rw [(assembly_of_build h).autopilot]
      exact ⟨rfl, rfl⟩
    have hidle := Pid.idle_start p.climbRate (flownBy p).timeStep
    rw [hclimb.1, hclimb.2, hidle.update_fst, hidle.observe.nextIntegrator_of_neg]
    · rfl
    all_goals norm_num [Pid.observe, Pid.start, p, PilotParameters.standard, flownBy,
      Configuration.standard]
  have hrest : p.velocity.CanRest ∧ p.rollRate.CanRest ∧ p.pitchRate.CanRest ∧
      p.yawRate.CanRest := by
    norm_num [PidGains.CanRest, p, PilotParameters.standard, PidGains.onlyProportional]
  obtain ⟨hvelocity, hroll, hpitch, hyaw⟩ := hrest
  obtain ⟨hdemand, -⟩ := hhover.steered hc hb hvelocity hroll hpitch hyaw hquiet
  have hfits : (AircraftInput.none : AircraftInput ℝ).Fits a.hover.rotors.length := by
    simp [AircraftInput.Fits, AircraftInput.none]
  rw [perform_of_fits ctx hdirect hfits]
  dsimp only
  rw [fly_fst]
  simp only [hdirect, Bool.false_eq_true, if_false]
  rw [hdemand, hacceleration, maxThrust_eq (hb.powered hc), hweight, mul_add, hweight]
  congr 1
  rw [clamp_of_mem] <;> norm_num [flownBy, Configuration.standard]

end Aircraft

end Multirotor
