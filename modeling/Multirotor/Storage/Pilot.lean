import Multirotor.Pilot.Autopilot
import Multirotor.Storage.Body

/-!
# Stored targets and parameters

The gains of the pilot, its modes and its targets as documents.  Gains, parameters, waypoints and
radio commands fall back to their standard values field by field.  A mode names itself beside its
fields; a target is a record with its kind as the only key.
-/

namespace Multirotor

open Document

variable {α : Type} [Scalar α]

instance : Codec α (PidGains α) where
  encode g := .record
    [("kp", encode g.proportional),
     ("ki", encode g.integral),
     ("kd", encode g.derivative),
     ("imax", encode g.integralMax),
     ("filter_d_hz", encode g.filterHz)]
  decode d := do
    let r ← d.fields ["kp", "ki", "kd", "imax", "filter_d_hz"]
    let fallback : PidGains α := .standard
    return {
      proportional := ← optional r "kp" fallback.proportional
      integral := ← optional r "ki" fallback.integral
      derivative := ← optional r "kd" fallback.derivative
      integralMax := ← optional r "imax" fallback.integralMax
      filterHz := ← optional r "filter_d_hz" fallback.filterHz }

/-- The keys of the parameters, in order. -/
def PilotParameters.keys : List String :=
  ["altitude_p", "climb_rate", "max_climb_rate", "heading_p", "max_yaw_rate", "position_p",
   "velocity", "max_speed", "max_roll", "max_pitch", "angle_p", "roll_rate", "pitch_rate",
   "yaw_rate", "max_torque", "stick_decay", "button_ttl_usec"]

instance : Codec α (PilotParameters α) where
  encode p := .record
    [("altitude_p", encode p.altitudeGain),
     ("climb_rate", encode p.climbRate),
     ("max_climb_rate", encode p.maxClimbRate),
     ("heading_p", encode p.headingGain),
     ("max_yaw_rate", encode p.maxYawRate),
     ("position_p", encode p.positionGain),
     ("velocity", encode p.velocity),
     ("max_speed", encode p.maxSpeed),
     ("max_roll", encode p.maxRoll),
     ("max_pitch", encode p.maxPitch),
     ("angle_p", encode p.angleGain),
     ("roll_rate", encode p.rollRate),
     ("pitch_rate", encode p.pitchRate),
     ("yaw_rate", encode p.yawRate),
     ("max_torque", encode p.maxTorque),
     ("stick_decay", encode p.stickDecay),
     ("button_ttl_usec", encode p.buttonTime)]
  decode d := do
    let r ← d.fields PilotParameters.keys
    let fallback : PilotParameters α := .standard
    return {
      altitudeGain := ← optional r "altitude_p" fallback.altitudeGain
      climbRate := ← optional r "climb_rate" fallback.climbRate
      maxClimbRate := ← optional r "max_climb_rate" fallback.maxClimbRate
      headingGain := ← optional r "heading_p" fallback.headingGain
      maxYawRate := ← optional r "max_yaw_rate" fallback.maxYawRate
      positionGain := ← optional r "position_p" fallback.positionGain
      velocity := ← optional r "velocity" fallback.velocity
      maxSpeed := ← optional r "max_speed" fallback.maxSpeed
      maxRoll := ← optional r "max_roll" fallback.maxRoll
      maxPitch := ← optional r "max_pitch" fallback.maxPitch
      angleGain := ← optional r "angle_p" fallback.angleGain
      rollRate := ← optional r "roll_rate" fallback.rollRate
      pitchRate := ← optional r "pitch_rate" fallback.pitchRate
      yawRate := ← optional r "yaw_rate" fallback.yawRate
      maxTorque := ← optional r "max_torque" fallback.maxTorque
      stickDecay := ← optional r "stick_decay" fallback.stickDecay
      buttonTime := ← optional r "button_ttl_usec" fallback.buttonTime }

instance : Codec α ControlMode where
  encode
    | .scripted => .record [("mode", .text "api")]
    | .radio angleDirect =>
      .record [("mode", .text "radio_control"), ("angle_direct", encode angleDirect)]
  decode d := do
    let (mode, rest) ← d.splitTag "mode"
    match mode with
    | "api" => do
      -- by position there is nothing to give besides the mode
      let _ ← rest.fields []
      return .scripted
    | "radio_control" => do
      let r ← rest.fields ["angle_direct"]
      return .radio (← required r "angle_direct")
    | _ => none

/-! ### Targets -/

instance : Codec α Stick :=
  .ofNames
    [(.heading, "heading"), (.vertical, "vertical"), (.horizontal, "horizontal"),
     (.forward, "forward")]

instance : Codec α Button :=
  .ofNames
    [(.radioControl, "radio_control"), (.grab, "grab"), (.camera, "camera"), (.home, "home")]

instance {β : Type} [Codec α β] : Codec α (Sticks β) where
  encode s := .list (s.toList.map encode)
  decode d := (Codec.decodeFour d).map fun (heading, vertical, horizontal, forward) =>
    { heading, vertical, horizontal, forward }

instance {β : Type} [Codec α β] : Codec α (Buttons β) where
  encode s := .list (s.toList.map encode)
  decode d := (Codec.decodeFour d).map fun (radioControl, grab, camera, home) =>
    { radioControl, grab, camera, home }

instance : Codec α (RadioCommand α) where
  encode c := .record [("sticks", encode c.sticks), ("buttons", encode c.buttons)]
  decode d := do
    let r ← d.fields ["sticks", "buttons"]
    let fallback : RadioCommand α := .idle
    return {
      sticks := ← optional r "sticks" fallback.sticks
      buttons := ← optional r "buttons" fallback.buttons }

instance : Codec α (Waypoint α) where
  encode w := .record
    [("north", encode w.north),
     ("east", encode w.east),
     ("altitude", encode w.altitude),
     ("yaw", encode w.yaw),
     ("speed", encode w.speed)]
  decode d := do
    let r ← d.fields ["north", "east", "altitude", "yaw", "speed"]
    let fallback : Waypoint α := .origin
    return {
      north := ← optional r "north" fallback.north
      east := ← optional r "east" fallback.east
      altitude := ← optional r "altitude" fallback.altitude
      yaw := ← optional r "yaw" fallback.yaw
      speed := ← optional r "speed" fallback.speed }

instance : Codec α (Target α) where
  encode
    | .waypoint w => .record [("api", encode w)]
    | .radio c => .record [("radio", encode c)]
  decode
    | .record [("api", d)] => (decode d).map .waypoint
    | .record [("radio", d)] => (decode d).map .radio
    | _ => none

end Multirotor
