import Multirotor.Body.Motion
import Multirotor.Body.Rigid
import Multirotor.Mixing.Mixer
import Multirotor.Pilot.Cascade
import Multirotor.Pilot.Transmitter

/-!
# The autopilot

The stages that lead from a target to the duties of the rotors.  A scripted target is held until the
next one arrives; the sticks move an altitude and a heading that are held.  A target of the other
mode is ignored.
-/

namespace Multirotor

/-- How targets reach the autopilot. -/
inductive ControlMode where
  /-- Positions, altitudes and headings from a script. -/
  | scripted
  /-- The sticks of a transmitter, for roll and pitch or else for the horizontal velocity. -/
  | radio (angleDirect : Bool)
  deriving DecidableEq, Repr

/-- A scripted target. -/
structure Waypoint (α : Type) where
  north : α
  east : α
  /-- Above the origin of the ground frame. -/
  altitude : α
  yaw : α
  /-- Limit of the horizontal speed. -/
  speed : α
  deriving DecidableEq, Repr

/-- A target of either mode. -/
inductive Target (α : Type) where
  | waypoint (w : Waypoint α)
  | radio (c : RadioCommand α)
  deriving DecidableEq, Repr

/-- What the horizontal stages hand to the others. -/
structure Guidance (α : Type) where
  altitude : α
  yaw : α
  tilt : Tilt α
  deriving DecidableEq, Repr

/-- The outcome of one tick. -/
structure ControlOutput (α : Type) where
  /-- The wrench asked of the rotors. -/
  demand : Wrench α
  /-- The duty of each rotor. -/
  duties : List α
  tilt : Tilt α
  deriving DecidableEq, Repr

/-- The stages of the autopilot. -/
structure Autopilot (α : Type) where
  mode : ControlMode
  parameters : PilotParameters α
  dt : α
  dtMicros : UInt64
  climb : ClimbControl α
  travel : TravelControl α
  turn : TurnControl α
  mixer : Mixer α
  transmitter : Transmitter α
  /-- The scripted target that is held. -/
  waypoint : Option (Waypoint α)
  /-- The altitude that the sticks move. -/
  stickAltitude : Option α
  /-- The heading that the sticks move. -/
  stickYaw : Option α
  deriving DecidableEq, Repr

/-- The microseconds of a timestep in seconds. -/
def microseconds {α : Type} [Scalar α] (dt : α) : UInt64 := Scalar.toUInt64 (Scalar.round (dt * 1e6))

variable {α : Type} [Scalar α]

/-- The origin of the ground frame at no speed. -/
def Waypoint.origin : Waypoint α := { north := 0, east := 0, altitude := 0, yaw := 0, speed := 0 }

/-- The waypoint of a target, if it is one. -/
def Target.waypoint? {α : Type} : Target α → Option (Waypoint α)
  | .waypoint w => some w
  | .radio _ => none

/-- The command of a target, if it is one. -/
def Target.command? {α : Type} : Target α → Option (RadioCommand α)
  | .waypoint _ => none
  | .radio c => some c

namespace Autopilot

open Scalar

/-- The autopilot before the first tick. -/
def start (mode : ControlMode) (parameters : PilotParameters α) (airframe : Airframe α)
    (maxThrust : α) (mixer : Mixer α) (dt : α) : Autopilot α :=
  { mode, parameters, dt
    dtMicros := microseconds dt
    climb := .start parameters airframe.mass airframe.gravity maxThrust dt
    travel := .start parameters airframe.gravity dt
    turn := .start parameters airframe.inertia dt
    mixer
    transmitter := .start parameters.stickDecay parameters.buttonTime
    waypoint := none
    stickAltitude := none
    stickYaw := none }

/-- The pose of the body as a target. -/
def holdPose (a : Autopilot α) (o : Observation α) : Waypoint α :=
  { north := o.position.x
    east := o.position.y
    altitude := -o.position.z
    yaw := o.angles.yaw
    speed := a.parameters.maxSpeed }

/-- Follows the last waypoint, or the first pose until one arrives. -/
def guideScripted (a : Autopilot α) (o : Observation α) (waypoint : Option (Waypoint α)) :
    Guidance α × Autopilot α :=
  let w := (waypoint <|> a.waypoint).getD (a.holdPose o)
  let (tilt, travel) := a.travel.run ⟨w.north, w.east⟩ o.position.horizontal
    o.groundVelocity.horizontal o.angles.yaw w.speed
  ({ altitude := w.altitude, yaw := w.yaw, tilt }, { a with travel, waypoint := some w })

/-- The ground velocity asked for by the sticks at `yaw`. -/
def stickVelocity (a : Autopilot α) (sticks : Sticks α) (yaw : α) : Vec2 α :=
  let s := sin yaw
  let c := cos yaw
  let speed := a.parameters.maxSpeed
  ⟨(c * sticks.forward - s * sticks.horizontal) * speed,
    (s * sticks.forward + c * sticks.horizontal) * speed⟩

/-- Moves the held altitude and heading with the sticks and tilts the body by them. -/
def guideByRadio (a : Autopilot α) (angleDirect : Bool) (o : Observation α)
    (command : Option (RadioCommand α)) : Guidance α × Autopilot α :=
  let p := a.parameters
  let transmitter := a.transmitter.update command a.dtMicros
  let sticks := transmitter.sticks
  let altitude := a.stickAltitude.getD (-o.position.z) + sticks.vertical * p.maxClimbRate * a.dt
  let yaw := wrapAngle (a.stickYaw.getD o.angles.yaw + sticks.heading * p.maxYawRate * a.dt)
  let (tilt, travel) :=
    if angleDirect then
      ({ roll := sticks.horizontal * p.maxRoll, pitch := -sticks.forward * p.maxPitch }, a.travel)
    else
      a.travel.runVelocity (a.stickVelocity sticks o.angles.yaw) o.groundVelocity.horizontal
        o.angles.yaw
  ({ altitude, yaw, tilt },
    { a with travel, transmitter, stickAltitude := some altitude, stickYaw := some yaw })

/-- The altitude, heading and tilt of this tick. -/
def guide (a : Autopilot α) (o : Observation α) (target : Option (Target α)) :
    Guidance α × Autopilot α :=
  match a.mode with
  | .scripted => a.guideScripted o (target.bind Target.waypoint?)
  | .radio angleDirect => a.guideByRadio angleDirect o (target.bind Target.command?)

/-- One tick: the duties for the next one, from the state of the body and the latest target. -/
def run (a : Autopilot α) (o : Observation α) (target : Option (Target α)) :
    ControlOutput α × Autopilot α :=
  let (g, a) := a.guide o target
  let (thrust, climb) := a.climb.run g.altitude (-o.position.z) (-o.groundVelocity.z) o.angles
  let yawRate := yawRateFor a.parameters.headingGain a.parameters.maxYawRate g.yaw o.angles.yaw
  let (torque, turn) := a.turn.run o.angles o.angularVelocity g.tilt.roll g.tilt.pitch yawRate
  let demand := { thrust, torque }
  let saturation := a.mixer.saturation demand
  ({ demand, duties := a.mixer.duties demand, tilt := g.tilt },
    { a with climb := climb.addLimit (saturation.lower || saturation.upper), turn })

/-- The autopilot before the first tick. -/
def reset (a : Autopilot α) : Autopilot α :=
  { a with
    climb := a.climb.reset
    travel := a.travel.reset
    turn := a.turn.reset
    transmitter := a.transmitter.reset
    waypoint := none
    stickAltitude := none
    stickYaw := none }

end Autopilot

end Multirotor
