import Multirotor.Pilot.Pid
import Multirotor.Space.Euler

/-!
# The cascade

The stages between a target and the wrench that reaches it.  The altitude asks for a thrust; the
position asks for a tilt; the heading asks for a yaw rate; tilt and yaw rate ask for a torque.
-/

namespace Multirotor

/-! ## Parameters -/

/-- Gains and limits of the pilot. -/
structure PilotParameters (α : Type) where
  /-- Climb rate per altitude error. -/
  altitudeGain : α
  climbRate : PidGains α
  maxClimbRate : α
  /-- Yaw rate per yaw error. -/
  headingGain : α
  maxYawRate : α
  /-- Velocity per horizontal position error. -/
  positionGain : α
  velocity : PidGains α
  /-- Horizontal speed at full stick. -/
  maxSpeed : α
  maxRoll : α
  maxPitch : α
  /-- Turn rate per angle error. -/
  angleGain : α
  rollRate : PidGains α
  pitchRate : PidGains α
  yawRate : PidGains α
  /-- The greatest magnitude of the torque. -/
  maxTorque : α
  /-- Travel of a released stick toward its center in a tick. -/
  stickDecay : α
  /-- Microseconds for which a button stays pressed. -/
  buttonTime : UInt64
  deriving DecidableEq, Repr

/-- Parameters of a small quadrotor. -/
def PilotParameters.standard {α : Type} [Scalar α] : PilotParameters α :=
  { altitudeGain := 1
    climbRate :=
      { proportional := 3.0, integral := 0.5, derivative := 0, integralMax := 2.0, filterHz := 0 }
    maxClimbRate := 2.0
    headingGain := 2.0
    maxYawRate := 1.5
    positionGain := 1
    velocity :=
      { proportional := 2.0, integral := 0.1, derivative := 0, integralMax := 1, filterHz := 0 }
    maxSpeed := 5.0
    maxRoll := 0.35
    maxPitch := 0.35
    angleGain := 6.0
    rollRate := .onlyProportional 20.0
    pitchRate := .onlyProportional 20.0
    yawRate := .onlyProportional 5.0
    maxTorque := 1
    stickDecay := 0.001
    buttonTime := 100000 }

/-! ## Holding an altitude

The altitude error asks for a climb rate, a loop turns that into a vertical acceleration, and the
thrust that gives it at the present tilt is held within what the rotors deliver.  Whether it had to be
held back freezes the loop in the next tick. -/

/-- The stage that holds an altitude. -/
structure ClimbControl (α : Type) where
  gain : α
  maxClimbRate : α
  loop : Pid α
  mass : α
  gravity : α
  maxThrust : α
  /-- The last thrust was held back, here or by the rotors. -/
  isLimited : Bool
  deriving DecidableEq, Repr

namespace ClimbControl

variable {α : Type} [Scalar α]

open Scalar

/-- The least cosine of the tilt that the thrust makes up for. -/
def leastTilt : α := 0.2

/-- The stage before the first tick. -/
def start (p : PilotParameters α) (mass gravity maxThrust dt : α) : ClimbControl α :=
  { gain := p.altitudeGain
    maxClimbRate := p.maxClimbRate
    loop := .start p.climbRate dt
    mass, gravity, maxThrust
    isLimited := false }

/-- The climb rate asked for by an altitude error. -/
def climbTarget (c : ClimbControl α) (target altitude : α) : α :=
  clamp (c.gain * (target - altitude)) (-c.maxClimbRate) c.maxClimbRate

/-- The thrust of a body with attitude `e` that accelerates it upward by `acceleration`. -/
def thrustFor (c : ClimbControl α) (acceleration : α) (e : Euler α) : α :=
  c.mass * (c.gravity + acceleration) / larger (cos e.roll * cos e.pitch) leastTilt

/-- The thrust that moves the body to an altitude.  Altitudes and climb rates count upward. -/
def run (c : ClimbControl α) (target altitude climbRate : α) (e : Euler α) :
    α × ClimbControl α :=
  let (acceleration, loop) := c.loop.update (c.climbTarget target altitude) climbRate c.isLimited
  let wanted := c.thrustFor acceleration e
  let thrust := clamp wanted 0 c.maxThrust
  (thrust, { c with loop, isLimited := thrust != wanted })

/-- Notes that the rotors held the thrust back. -/
def addLimit (c : ClimbControl α) (limited : Bool) : ClimbControl α :=
  { c with isLimited := c.isLimited || limited }

/-- The stage before the first tick. -/
def reset (c : ClimbControl α) : ClimbControl α := { c with loop := c.loop.reset, isLimited := false }

end ClimbControl

/-! ## Travelling

The horizontal position error asks for a velocity, two loops turn the velocity error into an
acceleration to north and east, and the body is tilted so that its thrust gives it. -/

/-- The roll and pitch asked for. -/
structure Tilt (α : Type) where
  roll : α
  pitch : α
  deriving DecidableEq, Repr

/-- The stage that moves the body horizontally. -/
structure TravelControl (α : Type) where
  gain : α
  northLoop : Pid α
  eastLoop : Pid α
  maxRoll : α
  maxPitch : α
  gravity : α
  deriving DecidableEq, Repr

namespace TravelControl

variable {α : Type} [Scalar α]

open Scalar

/-- The stage before the first tick. -/
def start (p : PilotParameters α) (gravity dt : α) : TravelControl α :=
  { gain := p.positionGain
    northLoop := .start p.velocity dt
    eastLoop := .start p.velocity dt
    maxRoll := p.maxRoll
    maxPitch := p.maxPitch
    gravity }

/-- The velocity that leads from `position` to `target`, at no more than `speed`. -/
def velocityTarget (c : TravelControl α) (target position : Vec2 α) (speed : α) : Vec2 α :=
  let v := (target - position) * c.gain
  let norm := v.norm
  if speed < norm ∧ 0 < norm then v * (larger speed 0 / norm) else v

/-- The tilt at `yaw` that accelerates by `north` and `east`: nose down to go forward. -/
def tiltFor (c : TravelControl α) (north east yaw : α) : Tilt α :=
  let s := sin yaw
  let k := cos yaw
  let forward := k * north + s * east
  let right := -s * north + k * east
  { roll := clamp (right / c.gravity) (-c.maxRoll) c.maxRoll
    pitch := clamp (-forward / c.gravity) (-c.maxPitch) c.maxPitch }

/-- The tilt that reaches the ground velocity `target`. -/
def runVelocity (c : TravelControl α) (target velocity : Vec2 α) (yaw : α) :
    Tilt α × TravelControl α :=
  let (north, northLoop) := c.northLoop.update target.x velocity.x false
  let (east, eastLoop) := c.eastLoop.update target.y velocity.y false
  (c.tiltFor north east yaw, { c with northLoop, eastLoop })

/-- The tilt that leads to the position `target` at no more than `speed`. -/
def run (c : TravelControl α) (target position velocity : Vec2 α) (yaw speed : α) :
    Tilt α × TravelControl α :=
  c.runVelocity (c.velocityTarget target position speed) velocity yaw

/-- The stage before the first tick. -/
def reset (c : TravelControl α) : TravelControl α :=
  { c with northLoop := c.northLoop.reset, eastLoop := c.eastLoop.reset }

end TravelControl

/-! ## Holding a heading -/

/-- The yaw rate that turns from `yaw` toward `target`. -/
def yawRateFor {α : Type} [Scalar α] (gain maxYawRate target yaw : α) : α :=
  Scalar.clamp (gain * wrapAngle (target - yaw)) (-maxYawRate) maxYawRate

/-! ## Turning

The errors of roll and pitch ask for turn rates, three loops turn the rate errors into angular
accelerations, and the torque that gives them is shortened to what is allowed. -/

/-- The stage that turns the body. -/
structure TurnControl (α : Type) where
  gain : α
  loops : Vec3 (Pid α)
  inertia : Vec3 α
  maxTorque : α
  deriving DecidableEq, Repr

namespace TurnControl

variable {α : Type} [Scalar α]

/-- The stage before the first tick. -/
def start (p : PilotParameters α) (inertia : Vec3 α) (dt : α) : TurnControl α :=
  { gain := p.angleGain
    loops := ⟨.start p.rollRate dt, .start p.pitchRate dt, .start p.yawRate dt⟩
    inertia
    maxTorque := p.maxTorque }

/-- A torque shortened to the length `most`. -/
def shorten (torque : Vec3 α) (most : α) : Vec3 α :=
  let norm := torque.norm
  if most < norm then torque * most / norm else torque

/-- The torque that brings the body at attitude `e`, turning at `w`, to the given roll, pitch and yaw
rate. -/
def run (c : TurnControl α) (e : Euler α) (w : Vec3 α) (roll pitch yawRate : α) :
    Vec3 α × TurnControl α :=
  let target : Vec3 α := ⟨c.gain * (roll - e.roll), c.gain * (pitch - e.pitch), yawRate⟩
  let (x, xLoop) := c.loops.x.update target.x w.x false
  let (y, yLoop) := c.loops.y.update target.y w.y false
  let (z, zLoop) := c.loops.z.update target.z w.z false
  (shorten (c.inertia.mul ⟨x, y, z⟩) c.maxTorque, { c with loops := ⟨xLoop, yLoop, zLoop⟩ })

/-- The stage before the first tick. -/
def reset (c : TurnControl α) : TurnControl α := { c with loops := c.loops.map Pid.reset }

end TurnControl

end Multirotor
