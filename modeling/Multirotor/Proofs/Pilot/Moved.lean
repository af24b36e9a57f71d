import Multirotor.Proofs.Pilot.Idle
import Multirotor.Proofs.Pilot.Loop
import Multirotor.Proofs.Space.Move

/-!
# The autopilot in a moved frame

What the autopilot asks of the rotors does not depend on where north is or on where the origin lies.
Its two velocity loops, one to north and one to east, behave as one loop for a vector: their memory
turns with the frame (`HorizontalMove.TurnsTravel`), as long as the bound on the integrals takes no
effect, because the bound is a square and a square does not turn.  The tilt is found in the frame of
the heading and the heading is compared up to full turns, so that the rest of the autopilot sees no
difference (`Autopilot.answers_moved`).
-/

namespace Multirotor

open Scalar

/-! ## Travelling -/

namespace TravelControl

/-- The bound on an integral takes effect when a ground velocity is asked for. -/
def Clamps (c : TravelControl ℝ) (target velocity : Vec2 ℝ) : Prop :=
  c.northLoop.Clamps target.x velocity.x ∨ c.eastLoop.Clamps target.y velocity.y

/-- A term of both loops as a vector. -/
def memory (c : TravelControl ℝ) (term : Pid ℝ → ℝ) : Vec2 ℝ := ⟨term c.northLoop, term c.eastLoop⟩

/-- The tilt of a tick can be read off the memory after it. -/
theorem runVelocity_fst (c : TravelControl ℝ) (target velocity : Vec2 ℝ) (yaw : ℝ) :
    (c.runVelocity target velocity yaw).1 =
      (c.runVelocity target velocity yaw).2.tiltFor
        ((c.runVelocity target velocity yaw).2.memory Pid.output).x
        ((c.runVelocity target velocity yaw).2.memory Pid.output).y yaw := by
  simp only [runVelocity, memory, Pid.update_fst]
  rfl

end TravelControl

namespace HorizontalMove

variable (m : HorizontalMove)

/-- A heading after the move, up to full turns. -/
def TurnsYaw (yaw yaw' : ℝ) : Prop := (yaw' : Real.Angle) = yaw + m.angle

/-- The memory of the velocity loops is turned. -/
structure TurnsTravel (c c' : TravelControl ℝ) : Prop where
  gain : c'.gain = c.gain
  maxRoll : c'.maxRoll = c.maxRoll
  maxPitch : c'.maxPitch = c.maxPitch
  gravity : c'.gravity = c.gravity
  eastLoop : c.eastLoop.Alike c.northLoop
  northLoop' : c'.northLoop.Alike c.northLoop
  eastLoop' : c'.eastLoop.Alike c.northLoop
  error : c'.memory Pid.error = m.turnLevel (c.memory Pid.error)
  slope : c'.memory Pid.slope = m.turnLevel (c.memory Pid.slope)
  integrator : c'.memory Pid.integrator = m.turnLevel (c.memory Pid.integrator)

variable {m}

theorem memory_eq_turnLevel_iff {c c' : TravelControl ℝ} {term : Pid ℝ → ℝ} :
    c'.memory term = m.turnLevel (c.memory term) ↔
      term c'.northLoop =
          Real.cos m.angle * term c.northLoop - Real.sin m.angle * term c.eastLoop ∧
        term c'.eastLoop =
          Real.sin m.angle * term c.northLoop + Real.cos m.angle * term c.eastLoop :=
  Vec2.ext_iff

theorem TurnsYaw.sin_eq {yaw yaw' : ℝ} (h : m.TurnsYaw yaw yaw') :
    Real.sin yaw' = Real.sin yaw * Real.cos m.angle + Real.cos yaw * Real.sin m.angle := by
  rw [← Real.sin_add]
  exact congrArg Real.Angle.sin h

theorem TurnsYaw.cos_eq {yaw yaw' : ℝ} (h : m.TurnsYaw yaw yaw') :
    Real.cos yaw' = Real.cos yaw * Real.cos m.angle - Real.sin yaw * Real.sin m.angle := by
  rw [← Real.cos_add]
  exact congrArg Real.Angle.cos h

theorem TurnsYaw.wrapAngle_add {yaw yaw' : ℝ} (h : m.TurnsYaw yaw yaw') (turn : ℝ) :
    m.TurnsYaw (wrapAngle (yaw + turn)) (wrapAngle (yaw' + turn)) := by
  unfold TurnsYaw at h ⊢
  rw [coe_wrapAngle, coe_wrapAngle, Real.Angle.coe_add, Real.Angle.coe_add, h]
  exact add_right_comm _ _ _

/-- The acceleration is turned back into the frame of the heading. -/
theorem tiltFor_turned {c c' : TravelControl ℝ} (h : m.TurnsTravel c c') {yaw yaw' : ℝ}
    (hyaw : m.TurnsYaw yaw yaw') (acceleration : Vec2 ℝ) :
    c'.tiltFor (m.turnLevel acceleration).x (m.turnLevel acceleration).y yaw' =
      c.tiltFor acceleration.x acceleration.y yaw := by
  have hone := Real.sin_sq_add_cos_sq m.angle
  have hforward : Real.cos yaw' * (m.turnLevel acceleration).x +
      Real.sin yaw' * (m.turnLevel acceleration).y =
        Real.cos yaw * acceleration.x + Real.sin yaw * acceleration.y := by
    rw [hyaw.sin_eq, hyaw.cos_eq, turnLevel]
    linear_combination (Real.cos yaw * acceleration.x + Real.sin yaw * acceleration.y) * hone
  have hright : -Real.sin yaw' * (m.turnLevel acceleration).x +
      Real.cos yaw' * (m.turnLevel acceleration).y =
        -Real.sin yaw * acceleration.x + Real.cos yaw * acceleration.y := by
    rw [hyaw.sin_eq, hyaw.cos_eq, turnLevel]
    linear_combination (-Real.sin yaw * acceleration.x + Real.cos yaw * acceleration.y) * hone
  simp only [TravelControl.tiltFor, sin_real, cos_real, hforward, hright, h.maxRoll, h.maxPitch,
    h.gravity]

namespace TurnsTravel

variable {c c' : TravelControl ℝ} (h : m.TurnsTravel c c')

include h

theorem velocityTarget (target position : Vec2 ℝ) (speed : ℝ) :
    c'.velocityTarget (m.moveLevel target) (m.moveLevel position) speed =
      m.turnLevel (c.velocityTarget target position speed) := by
  simp only [TravelControl.velocityTarget, moveLevel_sub_moveLevel, h.gain, ← turnLevel_scale,
    norm_turnLevel]
  split_ifs
  · rfl
  · rfl

theorem nextSlope (error : Vec2 ℝ) :
    (⟨c'.northLoop.nextSlope (m.turnLevel error).x, c'.eastLoop.nextSlope (m.turnLevel error).y⟩ :
      Vec2 ℝ) = m.turnLevel ⟨c.northLoop.nextSlope error.x, c.eastLoop.nextSlope error.y⟩ := by
  obtain ⟨hex, hey⟩ := memory_eq_turnLevel_iff.1 h.error
  obtain ⟨hsx, hsy⟩ := memory_eq_turnLevel_iff.1 h.slope
  unfold Pid.nextSlope
  rw [h.eastLoop.gains, h.northLoop'.gains, h.eastLoop'.gains, h.eastLoop.dt, h.northLoop'.dt,
    h.eastLoop'.dt, h.eastLoop.isFresh, h.northLoop'.isFresh, h.eastLoop'.isFresh]
  split_ifs with hfresh hdt
  · exact (m.turnLevel_zero).symm
  · ext
    · rw [hex, hsx]
      simp only [turnLevel]
      ring
    · rw [hey, hsy]
      simp only [turnLevel]
      ring
  · exact h.slope

theorem nextUnbounded (error : Vec2 ℝ) :
    (⟨c'.northLoop.nextUnbounded (m.turnLevel error).x,
      c'.eastLoop.nextUnbounded (m.turnLevel error).y⟩ : Vec2 ℝ) =
        m.turnLevel ⟨c.northLoop.nextUnbounded error.x, c.eastLoop.nextUnbounded error.y⟩ := by
  obtain ⟨hix, hiy⟩ := memory_eq_turnLevel_iff.1 h.integrator
  unfold Pid.nextUnbounded
  rw [h.eastLoop.gains, h.northLoop'.gains, h.eastLoop'.gains, h.eastLoop.dt, h.northLoop'.dt,
    h.eastLoop'.dt]
  split_ifs with hactive
  · ext
    · rw [hix]
      simp only [turnLevel]
      ring
    · rw [hiy]
      simp only [turnLevel]
      ring
  · exact (m.turnLevel_zero).symm

theorem output : c'.memory Pid.output = m.turnLevel (c.memory Pid.output) := by
  obtain ⟨hex, hey⟩ := memory_eq_turnLevel_iff.1 h.error
  obtain ⟨hsx, hsy⟩ := memory_eq_turnLevel_iff.1 h.slope
  obtain ⟨hix, hiy⟩ := memory_eq_turnLevel_iff.1 h.integrator
  rw [memory_eq_turnLevel_iff]
  unfold Pid.output
  rw [h.eastLoop.gains, h.northLoop'.gains, h.eastLoop'.gains]
  constructor
  · rw [hex, hsx, hix]
    ring
  · rw [hey, hsy, hiy]
    ring

theorem reset : m.TurnsTravel c.reset c'.reset where
  gain := h.gain
  maxRoll := h.maxRoll
  maxPitch := h.maxPitch
  gravity := h.gravity
  eastLoop := ⟨h.eastLoop.gains, h.eastLoop.dt, rfl⟩
  northLoop' := ⟨h.northLoop'.gains, h.northLoop'.dt, rfl⟩
  eastLoop' := ⟨h.eastLoop'.gains, h.eastLoop'.dt, rfl⟩
  error := (m.turnLevel_zero).symm
  slope := (m.turnLevel_zero).symm
  integrator := (m.turnLevel_zero).symm

/-- Both loops take in a turned error, and the tilt is the same. -/
theorem runVelocity {target velocity : Vec2 ℝ} {yaw yaw' : ℝ} (hyaw : m.TurnsYaw yaw yaw')
    (hfree : ¬ c.Clamps target velocity)
    (hfree' : ¬ c'.Clamps (m.turnLevel target) (m.turnLevel velocity)) :
    (c'.runVelocity (m.turnLevel target) (m.turnLevel velocity) yaw').1 =
        (c.runVelocity target velocity yaw).1 ∧
      m.TurnsTravel (c.runVelocity target velocity yaw).2
        (c'.runVelocity (m.turnLevel target) (m.turnLevel velocity) yaw').2 := by
  obtain ⟨hnorth, heast⟩ := not_or.1 hfree
  obtain ⟨hnorth', heast'⟩ := not_or.1 hfree'
  have herror := m.turnLevel_sub target velocity
  have hslope := h.nextSlope (target - velocity)
  have hintegrator := h.nextUnbounded (target - velocity)
  rw [herror] at hslope hintegrator
  have hturns : m.TurnsTravel (c.runVelocity target velocity yaw).2
      (c'.runVelocity (m.turnLevel target) (m.turnLevel velocity) yaw').2 :=
    { gain := h.gain
      maxRoll := h.maxRoll
      maxPitch := h.maxPitch
      gravity := h.gravity
      eastLoop := h.eastLoop.update _ _ _ _
      northLoop' := h.northLoop'.update _ _ _ _
      eastLoop' := h.eastLoop'.update _ _ _ _
      error := by
        simp only [TravelControl.memory, TravelControl.runVelocity, Pid.error_update]
        exact herror.symm
      slope := by
        simp only [TravelControl.memory, TravelControl.runVelocity, Pid.slope_update]
        exact hslope
      integrator := by
        simp only [TravelControl.memory, TravelControl.runVelocity, Pid.integrator_update hnorth,
          Pid.integrator_update heast, Pid.integrator_update hnorth',
          Pid.integrator_update heast']
        exact hintegrator }
  refine ⟨?_, hturns⟩
  rw [TravelControl.runVelocity_fst c, TravelControl.runVelocity_fst c', hturns.output]
  exact tiltFor_turned hturns hyaw _

end TurnsTravel

theorem turnsTravel_start (p : PilotParameters ℝ) (gravity dt : ℝ) :
    m.TurnsTravel (.start p gravity dt) (.start p gravity dt) where
  gain := rfl
  maxRoll := rfl
  maxPitch := rfl
  gravity := rfl
  eastLoop := ⟨rfl, rfl, rfl⟩
  northLoop' := ⟨rfl, rfl, rfl⟩
  eastLoop' := ⟨rfl, rfl, rfl⟩
  error := (m.turnLevel_zero).symm
  slope := (m.turnLevel_zero).symm
  integrator := (m.turnLevel_zero).symm

/-! ## What is moved along -/

section Relations

variable (m)

structure MovesWaypoint (w w' : Waypoint ℝ) : Prop where
  position : (⟨w'.north, w'.east⟩ : Vec2 ℝ) = m.moveLevel ⟨w.north, w.east⟩
  altitude : w'.altitude = w.altitude
  yaw : m.TurnsYaw w.yaw w'.yaw
  speed : w'.speed = w.speed

/-- The sticks are held by the operator and turn with the body. -/
inductive MovesTarget : Target ℝ → Target ℝ → Prop
  | waypoint {w w' : Waypoint ℝ} (h : m.MovesWaypoint w w') :
      MovesTarget (.waypoint w) (.waypoint w')
  | radio (c : RadioCommand ℝ) : MovesTarget (.radio c) (.radio c)

structure MovesObservation (o o' : Observation ℝ) : Prop where
  position : o'.position = m.move o.position
  groundVelocity : o'.groundVelocity = m.turn o.groundVelocity
  angularVelocity : o'.angularVelocity = o.angularVelocity
  angles : m.Turns o.angles o'.angles

structure MovesGuidance (g g' : Guidance ℝ) : Prop where
  altitude : g'.altitude = g.altitude
  yaw : m.TurnsYaw g.yaw g'.yaw
  tilt : g'.tilt = g.tilt

structure MovesAutopilot (a a' : Autopilot ℝ) : Prop where
  mode : a'.mode = a.mode
  parameters : a'.parameters = a.parameters
  dt : a'.dt = a.dt
  dtMicros : a'.dtMicros = a.dtMicros
  climb : a'.climb = a.climb
  travel : m.TurnsTravel a.travel a'.travel
  turn : a'.turn = a.turn
  mixer : a'.mixer = a.mixer
  transmitter : a'.transmitter = a.transmitter
  waypoint : Option.Rel m.MovesWaypoint a.waypoint a'.waypoint
  stickAltitude : a'.stickAltitude = a.stickAltitude
  stickYaw : Option.Rel m.TurnsYaw a.stickYaw a'.stickYaw

end Relations

end HorizontalMove

/-! ## The velocity that is asked for -/

namespace Autopilot

section Asked

variable {α : Type} [Scalar α]

/-- The ground velocity that the autopilot asks its velocity loops for in a tick; none where the sticks
tilt the body by themselves. -/
def velocityAsked? (a : Autopilot α) (o : Observation α) (target : Option (Target α)) :
    Option (Vec2 α) :=
  match a.mode with
  | .scripted =>
    let w := a.followed o target
    some (a.travel.velocityTarget ⟨w.north, w.east⟩ o.position.horizontal w.speed)
  | .radio true => none
  | .radio false =>
    let transmitter := a.transmitter.update (target.bind Target.command?) a.dtMicros
    some (a.stickVelocity transmitter.sticks o.angles.yaw)

/-- The tilt of a tick, and the velocity loops after it. -/
def tilted (a : Autopilot α) (o : Observation α) (target : Option (Target α)) :
    Tilt α × TravelControl α :=
  match a.velocityAsked? o target with
  | some velocity => a.travel.runVelocity velocity o.groundVelocity.horizontal o.angles.yaw
  | none =>
    let sticks := (a.transmitter.update (target.bind Target.command?) a.dtMicros).sticks
    ({ roll := sticks.horizontal * a.parameters.maxRoll
       pitch := -sticks.forward * a.parameters.maxPitch }, a.travel)

theorem guide_scripted {a : Autopilot α} (h : a.mode = .scripted) (o : Observation α)
    (target : Option (Target α)) :
    a.guide o target =
      ({ altitude := (a.followed o target).altitude
         yaw := (a.followed o target).yaw
         tilt := (a.tilted o target).1 },
        { a with
          travel := (a.tilted o target).2
          waypoint := some (a.followed o target) }) := by
  have hguide : a.guide o target = a.guideScripted o (target.bind Target.waypoint?) := by
    simp only [guide, h]
  have htilted : a.tilted o target = a.travel.run
      ⟨(a.followed o target).north, (a.followed o target).east⟩ o.position.horizontal
      o.groundVelocity.horizontal o.angles.yaw (a.followed o target).speed := by
    simp only [tilted, velocityAsked?, h, TravelControl.run]
  rw [hguide, htilted]
  rfl

theorem guide_radio {a : Autopilot α} {angleDirect : Bool} (h : a.mode = .radio angleDirect)
    (o : Observation α) (target : Option (Target α)) :
    let transmitter := a.transmitter.update (target.bind Target.command?) a.dtMicros
    let altitude := a.stickAltitude.getD (-o.position.z) +
      transmitter.sticks.vertical * a.parameters.maxClimbRate * a.dt
    let yaw := wrapAngle (a.stickYaw.getD o.angles.yaw +
      transmitter.sticks.heading * a.parameters.maxYawRate * a.dt)
    a.guide o target =
      ({ altitude, yaw, tilt := (a.tilted o target).1 },
        { a with
          travel := (a.tilted o target).2
          transmitter
          stickAltitude := some altitude
          stickYaw := some yaw }) := by
  intro transmitter altitude yaw
  have hguide : a.guide o target =
      a.guideByRadio angleDirect o (target.bind Target.command?) := by
    simp only [guide, h]
  rw [hguide]
  cases angleDirect with
  | true =>
    have htilted : a.tilted o target =
        ({ roll := transmitter.sticks.horizontal * a.parameters.maxRoll
           pitch := -transmitter.sticks.forward * a.parameters.maxPitch }, a.travel) := by
      simp only [tilted, velocityAsked?, h, transmitter]
    rw [htilted]
    rfl
  | false =>
    have htilted : a.tilted o target =
        a.travel.runVelocity (a.stickVelocity transmitter.sticks o.angles.yaw)
          o.groundVelocity.horizontal o.angles.yaw := by
      simp only [tilted, velocityAsked?, h, transmitter]
    rw [htilted]
    rfl

/-- A tick once it is known where to go and how to tilt. -/
def follow (a : Autopilot α) (g : Guidance α) (o : Observation α) :
    ControlOutput α × Autopilot α :=
  let (thrust, climb) := a.climb.run g.altitude (-o.position.z) (-o.groundVelocity.z) o.angles
  let yawRate := yawRateFor a.parameters.headingGain a.parameters.maxYawRate g.yaw o.angles.yaw
  let (torque, turn) := a.turn.run o.angles o.angularVelocity g.tilt.roll g.tilt.pitch yawRate
  let demand := { thrust, torque }
  let saturation := a.mixer.saturation demand
  ({ demand, duties := a.mixer.duties demand, tilt := g.tilt },
    { a with climb := climb.addLimit (saturation.lower || saturation.upper), turn })

theorem run_eq_follow (a : Autopilot α) (o : Observation α) (target : Option (Target α)) :
    a.run o target = (a.guide o target).2.follow (a.guide o target).1 o := rfl

end Asked

/-- The bound on the integral of a velocity loop takes effect in a tick. -/
def Clamps (a : Autopilot ℝ) (o : Observation ℝ) (target : Option (Target ℝ)) : Prop :=
  ∃ velocity ∈ a.velocityAsked? o target, a.travel.Clamps velocity o.groundVelocity.horizontal

end Autopilot

/-! ## A tick -/

namespace HorizontalMove

variable {m : HorizontalMove}

theorem command_eq {t t' : Option (Target ℝ)} (h : Option.Rel m.MovesTarget t t') :
    t'.bind Target.command? = t.bind Target.command? := by
  cases h with
  | none => rfl
  | some h => cases h <;> rfl

theorem waypoint_rel {t t' : Option (Target ℝ)} (h : Option.Rel m.MovesTarget t t') :
    Option.Rel m.MovesWaypoint (t.bind Target.waypoint?) (t'.bind Target.waypoint?) := by
  cases h with
  | none => exact .none
  | some h =>
    cases h with
    | waypoint hw => exact .some hw
    | radio c => exact .none

/-- The short way round to a heading. -/
theorem yawRateFor_turned {target target' yaw yaw' : ℝ} (ht : m.TurnsYaw target target')
    (hy : m.TurnsYaw yaw yaw') (gain most : ℝ) :
    yawRateFor gain most target' yaw' = yawRateFor gain most target yaw := by
  have hangle : ((target' - yaw' : ℝ) : Real.Angle) = ((target - yaw : ℝ) : Real.Angle) := by
    rw [Real.Angle.coe_sub, Real.Angle.coe_sub, ht, hy, add_sub_add_right_eq_sub]
  rw [yawRateFor, yawRateFor, wrapAngle_congr hangle]

namespace MovesAutopilot

variable {a a' : Autopilot ℝ} (h : m.MovesAutopilot a a') {o o' : Observation ℝ}
  (ho : m.MovesObservation o o') {t t' : Option (Target ℝ)} (ht : Option.Rel m.MovesTarget t t')

include h ho

theorem holdPose : m.MovesWaypoint (a.holdPose o) (a'.holdPose o') where
  position := by
    have hposition := congrArg Vec3.horizontal ho.position
    rwa [horizontal_move] at hposition
  altitude := by simp only [Autopilot.holdPose, ho.position, move_z]
  yaw := ho.angles.yaw
  speed := by simp only [Autopilot.holdPose, h.parameters]

include ht in
theorem followed : m.MovesWaypoint (a.followed o t) (a'.followed o' t') := by
  have hpose := h.holdPose ho
  have htarget := waypoint_rel ht
  have hheld := h.waypoint
  unfold Autopilot.followed
  generalize t.bind Target.waypoint? = w at htarget
  generalize t'.bind Target.waypoint? = w' at htarget
  cases htarget with
  | some hw => exact hw
  | none =>
    generalize a.waypoint = v at hheld
    generalize a'.waypoint = v' at hheld
    cases hheld with
    | some hv => exact hv
    | none => exact hpose

omit ho in
theorem stickVelocity {yaw yaw' : ℝ} (hyaw : m.TurnsYaw yaw yaw') (sticks : Sticks ℝ) :
    a'.stickVelocity sticks yaw' = m.turnLevel (a.stickVelocity sticks yaw) := by
  ext <;> simp only [Autopilot.stickVelocity, turnLevel, sin_real, cos_real, hyaw.sin_eq,
    hyaw.cos_eq, h.parameters] <;> ring

include ht in
theorem velocityAsked? :
    a'.velocityAsked? o' t' = (a.velocityAsked? o t).map m.turnLevel := by
  unfold Autopilot.velocityAsked?
  rw [h.mode]
  cases a.mode with
  | scripted =>
    have hw := h.followed ho ht
    have hposition : o'.position.horizontal = m.moveLevel o.position.horizontal := by
      rw [ho.position, horizontal_move]
    simp only [hw.position, hw.speed, hposition, h.travel.velocityTarget, Option.map_some]
  | radio angleDirect =>
    cases angleDirect with
    | true => rfl
    | false =>
      simp only [command_eq ht, h.transmitter, h.dtMicros, h.stickVelocity ho.angles.yaw,
        Option.map_some]

include ht in
theorem tilted (hfree : ¬ a.Clamps o t) (hfree' : ¬ a'.Clamps o' t') :
    (a'.tilted o' t').1 = (a.tilted o t).1 ∧
      m.TurnsTravel (a.tilted o t).2 (a'.tilted o' t').2 := by
  have hasked := h.velocityAsked? ho ht
  have hvelocity : o'.groundVelocity.horizontal = m.turnLevel o.groundVelocity.horizontal := by
    rw [ho.groundVelocity, horizontal_turn]
  unfold Autopilot.Clamps at hfree hfree'
  unfold Autopilot.tilted
  rw [hasked] at hfree' ⊢
  cases hv : a.velocityAsked? o t with
  | none =>
    refine ⟨?_, h.travel⟩
    simp only [Option.map_none, command_eq ht, h.transmitter, h.dtMicros, h.parameters]
  | some velocity =>
    rw [hv, hvelocity] at hfree'
    rw [hv] at hfree
    simp only [Option.map_some, hvelocity]
    exact h.travel.runVelocity ho.angles.yaw (fun hc => hfree ⟨velocity, rfl, hc⟩)
      fun hc => hfree' ⟨m.turnLevel velocity, rfl, hc⟩

include ht in
theorem guide (hfree : ¬ a.Clamps o t) (hfree' : ¬ a'.Clamps o' t') :
    m.MovesGuidance (a.guide o t).1 (a'.guide o' t').1 ∧
      m.MovesAutopilot (a.guide o t).2 (a'.guide o' t').2 := by
  obtain ⟨htilt, htravel⟩ := h.tilted ho ht hfree hfree'
  cases hmode : a.mode with
  | scripted =>
    have hw := h.followed ho ht
    rw [Autopilot.guide_scripted hmode, Autopilot.guide_scripted (h.mode.trans hmode)]
    exact ⟨⟨hw.altitude, hw.yaw, htilt⟩, { h with travel := htravel, waypoint := .some hw }⟩
  | radio angleDirect =>
    have hyaw : m.TurnsYaw (a.stickYaw.getD o.angles.yaw) (a'.stickYaw.getD o'.angles.yaw) := by
      have hheld := h.stickYaw
      generalize a.stickYaw = y at hheld
      generalize a'.stickYaw = y' at hheld
      cases hheld with
      | none => exact ho.angles.yaw
      | some hy => exact hy
    rw [Autopilot.guide_radio hmode, Autopilot.guide_radio (h.mode.trans hmode)]
    simp only [command_eq ht, h.transmitter, h.dtMicros, h.stickAltitude, h.parameters, h.dt,
      ho.position, move_z]
    exact ⟨⟨rfl, hyaw.wrapAngle_add _, htilt⟩,
      { h with
        parameters := rfl
        dt := rfl
        dtMicros := rfl
        travel := htravel
        transmitter := rfl
        stickAltitude := rfl
        stickYaw := .some (hyaw.wrapAngle_add _) }⟩

theorem follow {g g' : Guidance ℝ} (hg : m.MovesGuidance g g') :
    (a'.follow g' o').1 = (a.follow g o).1 ∧
      m.MovesAutopilot (a.follow g o).2 (a'.follow g' o').2 := by
  have hclimb : a'.climb.run g'.altitude (-o'.position.z) (-o'.groundVelocity.z) o'.angles =
      a.climb.run g.altitude (-o.position.z) (-o.groundVelocity.z) o.angles := by
    simp only [h.climb, hg.altitude, ho.position, ho.groundVelocity, move_z, turn_z,
      ClimbControl.run, ClimbControl.thrustFor, ho.angles.roll, ho.angles.pitch]
  have hyawRate : yawRateFor a'.parameters.headingGain a'.parameters.maxYawRate g'.yaw
      o'.angles.yaw = yawRateFor a.parameters.headingGain a.parameters.maxYawRate g.yaw
        o.angles.yaw := by
    rw [h.parameters, yawRateFor_turned hg.yaw ho.angles.yaw]
  have hturn (yawRate : ℝ) : a'.turn.run o'.angles o'.angularVelocity g'.tilt.roll g'.tilt.pitch
      yawRate = a.turn.run o.angles o.angularVelocity g.tilt.roll g.tilt.pitch yawRate := by
    simp only [h.turn, ho.angularVelocity, hg.tilt, TurnControl.run, ho.angles.roll,
      ho.angles.pitch]
  simp only [Autopilot.follow, hclimb, hyawRate, hturn, h.mixer]
  exact ⟨by rw [hg.tilt], { h with climb := rfl, turn := rfl, mixer := rfl }⟩

include ht in
/-- A tick asks for the same, and the autopilot after it is moved along. -/
theorem run (hfree : ¬ a.Clamps o t) (hfree' : ¬ a'.Clamps o' t') :
    (a'.run o' t').1 = (a.run o t).1 ∧ m.MovesAutopilot (a.run o t).2 (a'.run o' t').2 := by
  obtain ⟨hguidance, hguided⟩ := h.guide ho ht hfree hfree'
  rw [Autopilot.run_eq_follow, Autopilot.run_eq_follow]
  exact hguided.follow ho hguidance

omit ho in
theorem reset : m.MovesAutopilot a.reset a'.reset where
  mode := h.mode
  parameters := h.parameters
  dt := h.dt
  dtMicros := h.dtMicros
  climb := by simp only [Autopilot.reset, h.climb]
  travel := h.travel.reset
  turn := by simp only [Autopilot.reset, h.turn]
  mixer := h.mixer
  transmitter := by simp only [Autopilot.reset, h.transmitter]
  waypoint := .none
  stickAltitude := rfl
  stickYaw := .none

end MovesAutopilot

theorem movesAutopilot_start (m : HorizontalMove) (mode : ControlMode) (p : PilotParameters ℝ)
    (airframe : Airframe ℝ) (maxThrust : ℝ) (mixer : Mixer ℝ) (dt : ℝ) :
    m.MovesAutopilot (.start mode p airframe maxThrust mixer dt)
      (.start mode p airframe maxThrust mixer dt) where
  mode := rfl
  parameters := rfl
  dt := rfl
  dtMicros := rfl
  climb := rfl
  travel := turnsTravel_start p airframe.gravity dt
  turn := rfl
  mixer := rfl
  transmitter := rfl
  waypoint := .none
  stickAltitude := rfl
  stickYaw := .none

end HorizontalMove

/-! ## Whole runs -/

/-- A use of the autopilot. -/
inductive PilotOperation (α : Type) where
  | run (o : Observation α) (target : Option (Target α))
  | reset
  deriving DecidableEq, Repr

namespace Autopilot

section Answers

variable {α : Type} [Scalar α]

/-- What an operation answers, with the autopilot after it. -/
def perform (a : Autopilot α) : PilotOperation α → Option (ControlOutput α) × Autopilot α
  | .run o target => (some (a.run o target).1, (a.run o target).2)
  | .reset => (none, a.reset)

/-- What a sequence of operations answers, with the sticks after each of them. -/
def answers (a : Autopilot α) :
    List (PilotOperation α) → List (Option (ControlOutput α) × Sticks α)
  | [] => []
  | op :: ops =>
    ((a.perform op).1, (a.perform op).2.transmitter.sticks) :: (a.perform op).2.answers ops

end Answers

/-- The bound on the integrals of the velocity loops never takes effect in a sequence of
operations. -/
def ClampFree (a : Autopilot ℝ) : List (PilotOperation ℝ) → Prop
  | [] => True
  | .run o target :: ops => ¬ a.Clamps o target ∧ (a.run o target).2.ClampFree ops
  | .reset :: ops => a.reset.ClampFree ops

end Autopilot

namespace HorizontalMove

variable (m : HorizontalMove)

inductive MovesPilotOperation : PilotOperation ℝ → PilotOperation ℝ → Prop
  | run {o o' : Observation ℝ} {t t' : Option (Target ℝ)} (ho : m.MovesObservation o o')
      (ht : Option.Rel m.MovesTarget t t') : MovesPilotOperation (.run o t) (.run o' t')
  | reset : MovesPilotOperation .reset .reset

variable {m}

theorem MovesAutopilot.answers {a a' : Autopilot ℝ} (h : m.MovesAutopilot a a')
    {ops ops' : List (PilotOperation ℝ)} (hops : List.Forall₂ m.MovesPilotOperation ops ops')
    (hfree : a.ClampFree ops) (hfree' : a'.ClampFree ops') : a'.answers ops' = a.answers ops := by
  induction hops generalizing a a' with
  | nil => rfl
  | cons hop _ ih =>
    cases hop with
    | run ho ht =>
      obtain ⟨houtput, hnext⟩ := h.run ho ht hfree.1 hfree'.1
      simp only [Autopilot.answers, Autopilot.perform, houtput, hnext.transmitter,
        ih hnext hfree.2 hfree'.2]
    | reset =>
      simp only [Autopilot.answers, Autopilot.perform, h.reset.transmitter,
        ih h.reset hfree hfree']

end HorizontalMove

namespace Autopilot

theorem travel_run {α : Type} [Scalar α] (a : Autopilot α) (o : Observation α)
    (target : Option (Target α)) : (a.run o target).2.travel = (a.tilted o target).2 := by
  cases hmode : a.mode with
  | scripted => rw [run_eq_follow, guide_scripted hmode]; rfl
  | radio angleDirect => rw [run_eq_follow, guide_radio hmode]; rfl

theorem gains_tilted (a : Autopilot ℝ) (o : Observation ℝ) (target : Option (Target ℝ)) :
    (a.tilted o target).2.northLoop.gains = a.travel.northLoop.gains ∧
      (a.tilted o target).2.eastLoop.gains = a.travel.eastLoop.gains := by
  unfold tilted
  cases a.velocityAsked? o target with
  | none => exact ⟨rfl, rfl⟩
  | some velocity => exact ⟨rfl, rfl⟩

/-- Without an integral gain no bound takes effect. -/
theorem clampFree_of_integral_eq_zero {a : Autopilot ℝ}
    (hn : a.travel.northLoop.gains.integral = 0) (he : a.travel.eastLoop.gains.integral = 0)
    (ops : List (PilotOperation ℝ)) : a.ClampFree ops := by
  induction ops generalizing a with
  | nil => trivial
  | cons op ops ih =>
    cases op with
    | run o target =>
      obtain ⟨hnorth, heast⟩ := a.gains_tilted o target
      rw [← travel_run] at hnorth heast
      refine ⟨?_, ih (hnorth ▸ hn) (heast ▸ he)⟩
      rintro ⟨velocity, -, hclamps | hclamps⟩
      · exact hclamps.1 hn
      · exact hclamps.1 he
    | reset => exact ih (a := a.reset) hn he

/-- An autopilot answers the same in a frame that is turned about the vertical and shifted
horizontally, as long as no velocity loop runs into the bound on its integral. -/
theorem answers_moved (m : HorizontalMove) (mode : ControlMode) (p : PilotParameters ℝ)
    (airframe : Airframe ℝ) (maxThrust : ℝ) (mixer : Mixer ℝ) (dt : ℝ)
    {ops ops' : List (PilotOperation ℝ)} (hops : List.Forall₂ m.MovesPilotOperation ops ops') :
    let a := start mode p airframe maxThrust mixer dt
    p.velocity.integral = 0 ∨ a.ClampFree ops ∧ a.ClampFree ops' →
      a.answers ops' = a.answers ops := by
  intro a hfree
  have hmoves := m.movesAutopilot_start mode p airframe maxThrust mixer dt
  obtain hgain | ⟨hfree, hfree'⟩ := hfree
  · exact hmoves.answers hops (clampFree_of_integral_eq_zero hgain hgain ops)
      (clampFree_of_integral_eq_zero hgain hgain ops')
  · exact hmoves.answers hops hfree hfree'

/-- The forward stick at the stop in a frame that is turned by a quarter. -/
theorem answers_moved_quarter :
    let m : HorizontalMove := { angle := Real.pi / 2, north := 2, east := -1 }
    let mixer : Mixer ℝ := { allocation := [⟨1, 0, 0, 0⟩], curve := .proportional 1000 }
    let airframe : Airframe ℝ :=
      { mass := 1, inertia := ⟨1, 2, 3⟩, gravity := 9.81
        drag := { linear := 0.05, quadratic := 0.01 }, rotorRadius := 0.05 }
    let a := start (.radio false) .standard airframe 20 mixer 0.001
    let o : Observation ℝ :=
      { position := ⟨1, 2, -3⟩, groundVelocity := ⟨3, 4, -1⟩, bodyVelocity := 0
        angularVelocity := ⟨0.1, 0, 0⟩, angles := ⟨0, 0, 0⟩, weather := none }
    let o' : Observation ℝ :=
      { o with
        position := m.move o.position
        groundVelocity := m.turn o.groundVelocity
        angles := ⟨0, 0, Real.pi / 2⟩ }
    let command : Target ℝ := .radio (RadioCommand.idle.drive .forward 1)
    a.ClampFree [.run o (some command)] ∧ a.ClampFree [.run o' (some command)] ∧
      a.answers [.run o' (some command)] = a.answers [.run o (some command)] := by
  intro m mixer airframe a o o' command
  have ho : m.MovesObservation o o' :=
    { position := rfl
      groundVelocity := rfl
      angularVelocity := rfl
      angles := ⟨rfl, rfl, (zero_add _).symm⟩ }
  have ht : Option.Rel m.MovesTarget (some command) (some command) := .some (.radio _)
  have hmoves := m.movesAutopilot_start (.radio false) .standard airframe 20 mixer 0.001
  have hasked : a.velocityAsked? o (some command) = some ⟨5, 0⟩ := by
    norm_num [Autopilot.velocityAsked?, a, start, command, o, Target.command?, RadioCommand.drive,
      RadioCommand.idle, Sticks.set, Sticks.all, Sticks.zipWith, Transmitter.update,
      Transmitter.start, Transmitter.moveStick, stickVelocity, PilotParameters.standard, clamp]
  have hasked' : a.velocityAsked? o' (some command) = some ⟨0, 5⟩ := by
    have hturned := hmoves.velocityAsked? ho ht
    rw [hasked] at hturned
    rw [hturned]
    simp [HorizontalMove.turnLevel, m]
  have hfree : a.ClampFree [.run o (some command)] := by
    refine ⟨?_, trivial⟩
    rintro ⟨velocity, hv, hclamps⟩
    rw [hasked] at hv
    obtain rfl := Option.some.inj hv
    obtain ⟨-, -, hlt⟩ | ⟨-, -, hlt⟩ := hclamps <;>
      norm_num [a, o, start, TravelControl.start, Pid.start, PilotParameters.standard,
        Vec3.horizontal] at hlt
  have hfree' : a.ClampFree [.run o' (some command)] := by
    refine ⟨?_, trivial⟩
    rintro ⟨velocity, hv, hclamps⟩
    have hvelocity : o'.groundVelocity.horizontal = ⟨-4, 3⟩ := by
      change (m.turn o.groundVelocity).horizontal = _
      rw [HorizontalMove.horizontal_turn]
      simp [HorizontalMove.turnLevel, m, o, Vec3.horizontal]
    rw [hasked'] at hv
    obtain rfl := Option.some.inj hv
    rw [hvelocity] at hclamps
    obtain ⟨-, -, hlt⟩ | ⟨-, -, hlt⟩ := hclamps <;>
      norm_num [a, start, TravelControl.start, Pid.start, PilotParameters.standard] at hlt
  exact ⟨hfree, hfree', answers_moved m (.radio false) .standard airframe 20 mixer 0.001
    (.cons (.run ho ht) .nil) (.inr ⟨hfree, hfree'⟩)⟩

end Autopilot

end Multirotor
