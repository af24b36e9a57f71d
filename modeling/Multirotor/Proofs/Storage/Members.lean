import Multirotor.Proofs.Storage.Laws
import Multirotor.Storage.Body
import Multirotor.Storage.Instrument
import Multirotor.Storage.Pilot

/-!
# Stored members

The laws of everything that is stored within a configuration, and of what is stored for an autopilot
or a collision.  Members with standard values are filled in from these field by field: `Drag.filled`
and its likes say what a removal makes of each.  Rotors, batteries and modes need all of their keys.
-/

namespace Multirotor

open Document Codec

variable {α : Type} [Scalar α]

/-! ## Names -/

instance : Lawful α AttitudeKind where
  decode_encode k := by cases k <;> rfl

instance : Keyless α AttitudeKind where
  keys_encode _ := rfl

instance : Lawful α IntegrationScheme where
  decode_encode s := by cases s <;> rfl

instance : Keyless α IntegrationScheme where
  keys_encode _ := rfl

/-! ## Members with standard values -/

def Drag.filled (r : Removal) (d : Drag α) : Drag α :=
  let fallback : Drag α := 0
  { linear := r.pick "linear" fallback.linear d.linear
    quadratic := r.pick "quadratic" fallback.quadratic d.quadratic }

instance : Fills α (Drag α) where
  filled := Drag.filled
  decode_without r d := by
    refine bind_fields ?_
    iterate 2 refine bind_filled rfl ?_
    rfl
  filled_nothing _ := rfl

def GroundEffect.filled (r : Removal) (g : GroundEffect α) : GroundEffect α :=
  let fallback : GroundEffect α := .standard
  { power := r.pick "power" fallback.power g.power
    exponent := r.pick "exponent" fallback.exponent g.exponent }

instance : Fills α (GroundEffect α) where
  filled := GroundEffect.filled
  decode_without r g := by
    refine bind_fields ?_
    iterate 2 refine bind_filled rfl ?_
    rfl
  filled_nothing _ := rfl

instance : Present α (GroundEffect α) where
  encode_ne_null _ := nofun

def Bounds.filled (r : Removal) (b : Bounds α) : Bounds α :=
  let fallback : Bounds α := .standard
  { position := r.pick "position" fallback.position b.position
    velocity := r.pick "velocity" fallback.velocity b.velocity
    angularVelocity := r.pick "angular_velocity" fallback.angularVelocity b.angularVelocity
    positionLimit := r.pick "position_limit" fallback.positionLimit b.positionLimit
    velocityLimit := r.pick "velocity_limit" fallback.velocityLimit b.velocityLimit
    angularVelocityLimit :=
      r.pick "angular_velocity_limit" fallback.angularVelocityLimit b.angularVelocityLimit }

instance : Fills α (Bounds α) where
  filled := Bounds.filled
  decode_without r b := by
    refine bind_fields ?_
    iterate 6 refine bind_filled rfl ?_
    rfl
  filled_nothing _ := rfl

instance : Present α (Bounds α) where
  encode_ne_null _ := nofun

def InstrumentSettings.filled (r : Removal) (s : InstrumentSettings α) : InstrumentSettings α :=
  let fallback : InstrumentSettings α := .standard
  { sampleCount := r.pick "sample_num" fallback.sampleCount s.sampleCount
    noiseVariance := r.pick "noise_variance" fallback.noiseVariance s.noiseVariance }

instance : Fills α (InstrumentSettings α) where
  filled := InstrumentSettings.filled
  decode_without r s := by
    refine bind_fields ?_
    iterate 2 refine bind_filled rfl ?_
    rfl
  filled_nothing _ := rfl

def PanelSettings.filled (r : Removal) (s : PanelSettings α) : PanelSettings α :=
  let fallback : PanelSettings α := .standard
  let inner (name : String) (s : InstrumentSettings α) := s.filled (r.under (.key name))
  { accelerometer :=
      r.pick "accelerometer" fallback.accelerometer (inner "accelerometer" s.accelerometer)
    gyroscope := r.pick "gyroscope" fallback.gyroscope (inner "gyroscope" s.gyroscope)
    gps := r.pick "gps" fallback.gps (inner "gps" s.gps)
    barometer := r.pick "barometer" fallback.barometer (inner "barometer" s.barometer)
    magnetometer :=
      r.pick "magnetometer" fallback.magnetometer (inner "magnetometer" s.magnetometer) }

instance : Fills α (PanelSettings α) where
  filled := PanelSettings.filled
  decode_without r s := by
    refine bind_fields ?_
    iterate 5 refine bind_filled rfl ?_
    rfl
  filled_nothing _ := rfl

def GeoReference.filled (r : Removal) (g : GeoReference α) : GeoReference α :=
  let fallback : GeoReference α := .standard
  { latitude := r.pick "latitude_deg" fallback.latitude g.latitude
    longitude := r.pick "longitude_deg" fallback.longitude g.longitude
    altitude := r.pick "altitude" fallback.altitude g.altitude }

instance : Fills α (GeoReference α) where
  filled := GeoReference.filled
  decode_without r g := by
    refine bind_fields ?_
    iterate 3 refine bind_filled rfl ?_
    rfl
  filled_nothing _ := rfl

def MagneticField.filled (r : Removal) (f : MagneticField α) : MagneticField α :=
  let fallback : MagneticField α := .standard
  { intensity := r.pick "intensity_nt" fallback.intensity f.intensity
    declination := r.pick "declination_deg" fallback.declination f.declination
    inclination := r.pick "inclination_deg" fallback.inclination f.inclination }

instance : Fills α (MagneticField α) where
  filled := MagneticField.filled
  decode_without r f := by
    refine bind_fields ?_
    iterate 3 refine bind_filled rfl ?_
    rfl
  filled_nothing _ := rfl

def PidGains.filled (r : Removal) (g : PidGains α) : PidGains α :=
  let fallback : PidGains α := .standard
  { proportional := r.pick "kp" fallback.proportional g.proportional
    integral := r.pick "ki" fallback.integral g.integral
    derivative := r.pick "kd" fallback.derivative g.derivative
    integralMax := r.pick "imax" fallback.integralMax g.integralMax
    filterHz := r.pick "filter_d_hz" fallback.filterHz g.filterHz }

instance : Fills α (PidGains α) where
  filled := PidGains.filled
  decode_without r g := by
    refine bind_fields ?_
    iterate 5 refine bind_filled rfl ?_
    rfl
  filled_nothing _ := rfl

def PilotParameters.filled (r : Removal) (p : PilotParameters α) : PilotParameters α :=
  let fallback : PilotParameters α := .standard
  let inner (name : String) (g : PidGains α) := g.filled (r.under (.key name))
  { altitudeGain := r.pick "altitude_p" fallback.altitudeGain p.altitudeGain
    climbRate := r.pick "climb_rate" fallback.climbRate (inner "climb_rate" p.climbRate)
    maxClimbRate := r.pick "max_climb_rate" fallback.maxClimbRate p.maxClimbRate
    headingGain := r.pick "heading_p" fallback.headingGain p.headingGain
    maxYawRate := r.pick "max_yaw_rate" fallback.maxYawRate p.maxYawRate
    positionGain := r.pick "position_p" fallback.positionGain p.positionGain
    velocity := r.pick "velocity" fallback.velocity (inner "velocity" p.velocity)
    maxSpeed := r.pick "max_speed" fallback.maxSpeed p.maxSpeed
    maxRoll := r.pick "max_roll" fallback.maxRoll p.maxRoll
    maxPitch := r.pick "max_pitch" fallback.maxPitch p.maxPitch
    angleGain := r.pick "angle_p" fallback.angleGain p.angleGain
    rollRate := r.pick "roll_rate" fallback.rollRate (inner "roll_rate" p.rollRate)
    pitchRate := r.pick "pitch_rate" fallback.pitchRate (inner "pitch_rate" p.pitchRate)
    yawRate := r.pick "yaw_rate" fallback.yawRate (inner "yaw_rate" p.yawRate)
    maxTorque := r.pick "max_torque" fallback.maxTorque p.maxTorque
    stickDecay := r.pick "stick_decay" fallback.stickDecay p.stickDecay
    buttonTime := r.pick "button_ttl_usec" fallback.buttonTime p.buttonTime }

instance : Fills α (PilotParameters α) where
  filled := PilotParameters.filled
  decode_without r p := by
    refine bind_fields ?_
    iterate 17 refine bind_filled rfl ?_
    rfl
  filled_nothing _ := rfl

/-! ## Members that need their keys -/

instance : Strict α (RotorConstants α) where
  decode_without r c := by
    refine bind_fields ?_
    iterate 6 refine bind_required rfl ?_
    rfl

instance : Strict α (Battery α) where
  decode_without r b := by
    refine bind_fields ?_
    refine bind_required rfl ?_
    rfl

instance : Present α (Battery α) where
  encode_ne_null _ := nofun

instance : Strict α (Mount α) where
  decode_without r m := by
    refine bind_fields ?_
    iterate 2 refine bind_required rfl ?_
    rfl

instance : Strict α ControlMode where
  decode_without r mode := by
    cases mode with
    | scripted =>
      change decode (record (fieldsWithout r [("mode", text "api")])) =
        if r.Spares [[.key "mode"]] then some ControlMode.scripted else none
      cases hmode : r [.key "mode"] <;>
        simp only [Removal.spares_cons, fieldsWithout, Removal.drops, hmode] <;> rfl
    | radio angleDirect =>
      change decode (record (fieldsWithout r
          [("mode", text "radio_control"), ("angle_direct", bool angleDirect)])) =
        if r.Spares [[.key "mode"], [.key "angle_direct"]] then some (ControlMode.radio angleDirect)
        else none
      cases hmode : r [.key "mode"] <;> cases hangle : r [.key "angle_direct"] <;>
        simp only [Removal.spares_cons, fieldsWithout, Removal.drops, hmode, hangle] <;> rfl

/-! ## Collisions and targets -/

instance : Lawful α (Bounce α) where
  decode_encode _ := rfl

instance : Lawful α (Strike α) where
  decode_encode _ := rfl

instance : Lawful α (Collision α) where
  decode_encode k := by
    cases k with
    | bounce b =>
      have h : decode (record b.toFields : Document α) = some b := decode_encode b
      exact congrArg (Option.map Collision.bounce) h
    | strike s =>
      have h : decode (record s.toFields : Document α) = some s := decode_encode s
      change (decode (record s.toFields : Document α) : Option (Strike α)).map Collision.strike = _
      rw [h]
      rfl

instance : Lawful α (Waypoint α) where
  decode_encode _ := rfl

instance {β : Type} [Codec α β] [Lawful α β] : Lawful α (Sticks β) where
  decode_encode s := by
    change ((do return (← decode (encode s.heading : Document α),
      ← decode (encode s.vertical : Document α), ← decode (encode s.horizontal : Document α),
      ← decode (encode s.forward : Document α)) : Option (β × β × β × β)).map _) = some s
    simp only [decode_encode]
    rfl

instance {β : Type} [Codec α β] [Lawful α β] : Lawful α (Buttons β) where
  decode_encode b := by
    change ((do return (← decode (encode b.radioControl : Document α),
      ← decode (encode b.grab : Document α), ← decode (encode b.camera : Document α),
      ← decode (encode b.home : Document α)) : Option (β × β × β × β)).map _) = some b
    simp only [decode_encode]
    rfl

instance : Lawful α (RadioCommand α) where
  decode_encode c := by
    change (do return (⟨← decode (encode c.sticks : Document α),
      ← decode (encode c.buttons : Document α)⟩ : RadioCommand α)) = some c
    rw [decode_encode, decode_encode]
    rfl

instance : Lawful α (Target α) where
  decode_encode t := by
    cases t with
    | waypoint w => exact congrArg (Option.map Target.waypoint) (decode_encode w)
    | radio c => exact congrArg (Option.map Target.radio) (decode_encode c)

end Multirotor
