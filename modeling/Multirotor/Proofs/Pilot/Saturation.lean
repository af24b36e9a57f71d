import Multirotor.Proofs.Aircraft.Reset
import Multirotor.Proofs.Scalar.Limit
import Multirotor.Proofs.Space.Vector

/-!
# Saturation

The stages of the autopilot limit what they ask for: the velocity toward a position is limited to a
speed, the tilt to its greatest angles and the torque to its greatest length.  Each of these limits
leaves a part of the quantity, in its direction, and all of it as long as its size is within the
limit (`Limit.part`).  What the loops of a stage remember does not matter for that, so that it holds
after any history of the stage (`cascade_saturates`).
-/

namespace Multirotor

open Scalar Limit

/-! ## Limited vectors -/

theorem TurnControl.shorten_eq (torque : Vec3 ℝ) (most : ℝ) :
    shorten torque most = torque * part most torque.norm := by
  rcases lt_or_ge most torque.norm with h | h
  · rw [part_of_lt h]
    ext <;> simp [shorten, h, mul_div_assoc]
  · rw [part_of_le h]
    ext <;> simp [shorten, not_lt.2 h]

theorem TurnControl.norm_shorten {most : ℝ} (hmost : 0 ≤ most) (torque : Vec3 ℝ) :
    (shorten torque most).norm = min torque.norm most := by
  rw [shorten_eq, Vec3.norm_scale, abs_of_nonneg (part_mem hmost _).1, part_mul hmost]

namespace TravelControl

/-- A speed below zero allows no motion at all. -/
theorem velocityTarget_eq (c : TravelControl ℝ) (target position : Vec2 ℝ) (speed : ℝ) :
    let asked := (target - position) * c.gain
    c.velocityTarget target position speed = asked * part (max speed 0) asked.norm := by
  intro asked
  by_cases h : speed < asked.norm ∧ 0 < asked.norm
  · rw [part_of_lt (max_lt h.1 h.2), ← larger_real]
    exact if_pos h
  · have hle : asked.norm ≤ max speed 0 := by
      rcases not_and_or.1 h with h | h
      · exact le_max_of_le_left (not_lt.1 h)
      · exact le_max_of_le_right (not_lt.1 h)
    have hwhole : asked * (1 : ℝ) = asked := by ext <;> simp
    rw [part_of_le hle, hwhole]
    exact if_neg h

theorem norm_velocityTarget (c : TravelControl ℝ) (target position : Vec2 ℝ) (speed : ℝ) :
    (c.velocityTarget target position speed).norm =
      min ((target - position) * c.gain).norm (max speed 0) := by
  have hmost : 0 ≤ max speed 0 := le_max_right _ _
  rw [velocityTarget_eq, Vec2.norm_scale, abs_of_nonneg (part_mem hmost _).1, part_mul hmost]

/-- The tilt is the one that gives the acceleration, up to the greatest angles. -/
theorem tiltFor_limited {c : TravelControl ℝ} (hgravity : 0 < c.gravity) (hroll : 0 ≤ c.maxRoll)
    (hpitch : 0 ≤ c.maxPitch) (north east yaw : ℝ) :
    let forward := Real.cos yaw * north + Real.sin yaw * east
    let right := -Real.sin yaw * north + Real.cos yaw * east
    let tilt := c.tiltFor north east yaw
    ((∃ s ∈ Set.Icc (0 : ℝ) 1, tilt.roll * c.gravity = right * s) ∧
        |tilt.roll| = min (|right| / c.gravity) c.maxRoll) ∧
      (∃ s ∈ Set.Icc (0 : ℝ) 1, tilt.pitch * c.gravity = -forward * s) ∧
        |tilt.pitch| = min (|forward| / c.gravity) c.maxPitch := by
  intro forward right tilt
  have hright := clamp_div hgravity hroll right
  have hforward := clamp_div hgravity hpitch (-forward)
  rw [abs_neg] at hforward
  exact ⟨hright, hforward⟩

end TravelControl

/-! ## Histories of the stages -/

/-- What is done to the stage that moves the body horizontally. -/
inductive TravelOperation (α : Type) where
  | run (target position velocity : Vec2 α) (yaw speed : α)
  | runVelocity (target velocity : Vec2 α) (yaw : α)
  | reset

/-- What is done to the stage that turns the body. -/
inductive TurnOperation (α : Type) where
  | run (e : Euler α) (w : Vec3 α) (roll pitch yawRate : α)
  | reset

section Histories

variable {α : Type} [Scalar α]

namespace TravelControl

/-- The stage after an operation. -/
def perform (c : TravelControl α) : TravelOperation α → TravelControl α
  | .run target position velocity yaw speed => (c.run target position velocity yaw speed).2
  | .runVelocity target velocity yaw => (c.runVelocity target velocity yaw).2
  | .reset => c.reset

/-- The stage after a sequence of operations. -/
def after (c : TravelControl α) (ops : List (TravelOperation α)) : TravelControl α :=
  ops.foldl perform c

/-- The accelerations to north and east that the loops answer. -/
def accelerations (c : TravelControl α) (target velocity : Vec2 α) : Vec2 α :=
  ⟨(c.northLoop.update target.x velocity.x false).1, (c.eastLoop.update target.y velocity.y false).1⟩

theorem reset_perform (c : TravelControl α) (op : TravelOperation α) :
    (c.perform op).reset = c.reset := by
  cases op with
  | run target position velocity yaw speed => exact reset_runVelocity ..
  | runVelocity target velocity yaw => exact reset_runVelocity ..
  | reset => rfl

theorem reset_after (c : TravelControl α) (ops : List (TravelOperation α)) :
    (c.after ops).reset = c.reset := by
  induction ops generalizing c with
  | nil => rfl
  | cons op ops ih => exact (ih (c.perform op)).trans (c.reset_perform op)

end TravelControl

namespace TurnControl

/-- The stage after an operation. -/
def perform (c : TurnControl α) : TurnOperation α → TurnControl α
  | .run e w roll pitch yawRate => (c.run e w roll pitch yawRate).2
  | .reset => c.reset

/-- The stage after a sequence of operations. -/
def after (c : TurnControl α) (ops : List (TurnOperation α)) : TurnControl α := ops.foldl perform c

/-- The angular accelerations that the loops answer. -/
def accelerations (c : TurnControl α) (e : Euler α) (w : Vec3 α) (roll pitch yawRate : α) : Vec3 α :=
  { x := (c.loops.x.update (c.gain * (roll - e.roll)) w.x false).1
    y := (c.loops.y.update (c.gain * (pitch - e.pitch)) w.y false).1
    z := (c.loops.z.update yawRate w.z false).1 }

theorem reset_perform (c : TurnControl α) (op : TurnOperation α) :
    (c.perform op).reset = c.reset := by
  cases op with
  | run e w roll pitch yawRate => exact reset_run ..
  | reset => rfl

theorem reset_after (c : TurnControl α) (ops : List (TurnOperation α)) :
    (c.after ops).reset = c.reset := by
  induction ops generalizing c with
  | nil => rfl
  | cons op ops ih => exact (ih (c.perform op)).trans (c.reset_perform op)

theorem run_fst (c : TurnControl α) (e : Euler α) (w : Vec3 α) (roll pitch yawRate : α) :
    (c.run e w roll pitch yawRate).1 =
      shorten (c.inertia.mul (c.accelerations e w roll pitch yawRate)) c.maxTorque := rfl

end TurnControl

end Histories

/-! ## The cascade -/

/-- After any history of the stages, each limit leaves a part between none and all of what is asked,
in its direction: the velocity toward a target is no longer than the speed, and zero for a speed
below zero; the tilt accelerates the body the way that the loops ask, up to its greatest angles; and
the torque is no longer than the greatest one, and all that the loops ask for within that length. -/
theorem cascade_saturates {p : PilotParameters ℝ} {gravity : ℝ} (hgravity : 0 < gravity)
    (hroll : 0 ≤ p.maxRoll) (hpitch : 0 ≤ p.maxPitch) (htorque : 0 ≤ p.maxTorque)
    (inertia : Vec3 ℝ) (dt : ℝ) (travels : List (TravelOperation ℝ))
    (turns : List (TurnOperation ℝ)) :
    let travel := (TravelControl.start p gravity dt).after travels
    let turn := (TurnControl.start p inertia dt).after turns
    (∀ (target position velocity : Vec2 ℝ) (yaw speed : ℝ),
      let asked := (target - position) * p.positionGain
      let setpoint := travel.velocityTarget target position speed
      travel.run target position velocity yaw speed = travel.runVelocity setpoint velocity yaw ∧
        (∃ s ∈ Set.Icc (0 : ℝ) 1, setpoint = asked * s) ∧
        setpoint.norm = min asked.norm (max speed 0)) ∧
    (∀ (target velocity : Vec2 ℝ) (yaw : ℝ),
      let a := travel.accelerations target velocity
      let forward := Real.cos yaw * a.x + Real.sin yaw * a.y
      let right := -Real.sin yaw * a.x + Real.cos yaw * a.y
      let tilt := (travel.runVelocity target velocity yaw).1
      ((∃ s ∈ Set.Icc (0 : ℝ) 1, tilt.roll * gravity = right * s) ∧
          |tilt.roll| = min (|right| / gravity) p.maxRoll) ∧
        (∃ s ∈ Set.Icc (0 : ℝ) 1, tilt.pitch * gravity = -forward * s) ∧
          |tilt.pitch| = min (|forward| / gravity) p.maxPitch) ∧
    ∀ (e : Euler ℝ) (w : Vec3 ℝ) (roll pitch yawRate : ℝ),
      let asked := inertia.mul (turn.accelerations e w roll pitch yawRate)
      let torque := (turn.run e w roll pitch yawRate).1
      (∃ s ∈ Set.Icc (0 : ℝ) 1, torque = asked * s) ∧
        torque.norm = min asked.norm p.maxTorque ∧
        (asked.norm ≤ p.maxTorque → torque = asked) := by
  intro travel turn
  have htravel : travel.reset = (TravelControl.start p gravity dt).reset :=
    TravelControl.reset_after _ travels
  have hturn : turn.reset = (TurnControl.start p inertia dt).reset :=
    TurnControl.reset_after _ turns
  refine ⟨fun target position velocity yaw speed => ⟨rfl, ?_⟩, fun target velocity yaw => ?_,
    fun e w roll pitch yawRate => ?_⟩
  · have hgain : travel.gain = p.positionGain := congrArg (·.gain) htravel
    rw [← hgain]
    exact ⟨⟨_, part_mem (le_max_right speed 0) _, travel.velocityTarget_eq target position speed⟩,
      travel.norm_velocityTarget target position speed⟩
  · have hweight : travel.gravity = gravity := congrArg (·.gravity) htravel
    have hmaxRoll : travel.maxRoll = p.maxRoll := congrArg (·.maxRoll) htravel
    have hmaxPitch : travel.maxPitch = p.maxPitch := congrArg (·.maxPitch) htravel
    rw [← hweight] at hgravity ⊢
    rw [← hmaxRoll] at hroll ⊢
    rw [← hmaxPitch] at hpitch ⊢
    exact TravelControl.tiltFor_limited hgravity hroll hpitch _ _ yaw
  · have hinertia : turn.inertia = inertia := congrArg (·.inertia) hturn
    have hmost : turn.maxTorque = p.maxTorque := congrArg (·.maxTorque) hturn
    rw [TurnControl.run_fst, hinertia, hmost]
    exact ⟨⟨_, part_mem htorque _, TurnControl.shorten_eq ..⟩, TurnControl.norm_shorten htorque _,
      fun hle => if_neg (not_lt.2 hle)⟩

/-- Stages that have run before.  The target is five meters away, to be reached at two meters per
second or at a speed below zero, and the body is to yaw much faster than its torque allows. -/
theorem cascade_saturates_hurried :
    let p : PilotParameters ℝ := .standard
    let travel := (TravelControl.start p 9.81 0.001).after [.run ⟨3, 4⟩ ⟨0, 0⟩ ⟨0, 0⟩ 1 2]
    let turn := (TurnControl.start p ⟨0.01, 0.01, 0.02⟩ 0.001).after
      [.run ⟨0, 0, 0⟩ 0 0 0 1000, .reset]
    (travel.velocityTarget ⟨3, 4⟩ ⟨0, 0⟩ 2).norm = 2 ∧
      (travel.velocityTarget ⟨3, 4⟩ ⟨0, 0⟩ (-1)).norm = 0 ∧
      |(travel.runVelocity ⟨0, 900⟩ ⟨0, 0⟩ 0).1.roll| ≤ 0.35 ∧
      (turn.run ⟨0, 0, 0⟩ 0 0 0 1000).1.norm = 1 := by
  intro p travel turn
  have hroll : (0 : ℝ) ≤ p.maxRoll := by norm_num [p, PilotParameters.standard]
  have hpitch : (0 : ℝ) ≤ p.maxPitch := by norm_num [p, PilotParameters.standard]
  have htorque : (0 : ℝ) ≤ p.maxTorque := by norm_num [p, PilotParameters.standard]
  obtain ⟨hvelocity, htilt, hturn⟩ := cascade_saturates (by norm_num : (0 : ℝ) < 9.81) hroll hpitch
    htorque ⟨0.01, 0.01, 0.02⟩ 0.001 [.run ⟨3, 4⟩ ⟨0, 0⟩ ⟨0, 0⟩ 1 2]
    [.run ⟨0, 0, 0⟩ 0 0 0 1000, .reset]
  have hdistance : (((⟨3, 4⟩ : Vec2 ℝ) - (⟨0, 0⟩ : Vec2 ℝ)) * p.positionGain).norm = 5 := by
    have hsquare : (3 * 3 + 4 * 4 : ℝ) = 5 * 5 := by norm_num
    simp [Vec2.norm, p, PilotParameters.standard, hsquare]
  refine ⟨?_, ?_, ?_, ?_⟩
  · obtain ⟨-, -, hnorm⟩ := hvelocity ⟨3, 4⟩ ⟨0, 0⟩ ⟨0, 0⟩ 0 2
    exact hnorm.trans (by rw [hdistance]; norm_num)
  · obtain ⟨-, -, hnorm⟩ := hvelocity ⟨3, 4⟩ ⟨0, 0⟩ ⟨0, 0⟩ 0 (-1)
    exact hnorm.trans (by rw [hdistance]; norm_num)
  · obtain ⟨⟨-, hangle⟩, -⟩ := htilt ⟨0, 900⟩ ⟨0, 0⟩ 0
    exact hangle.trans_le (min_le_right _ _)
  · obtain ⟨-, hnorm, -⟩ := hturn ⟨0, 0, 0⟩ 0 0 0 1000
    have hasked : (⟨0.01, 0.01, 0.02⟩ : Vec3 ℝ).mul
        (turn.accelerations ⟨0, 0, 0⟩ 0 0 0 1000) = Vec3.vertical 100 := by
      ext <;> norm_num [turn, TurnControl.after, TurnControl.perform, TurnControl.reset,
        TurnControl.accelerations, TurnControl.start, TurnControl.run, p,
        PilotParameters.standard, PidGains.onlyProportional, Pid.start, Pid.reset, Pid.update,
        Pid.observe, Pid.integrate, Pid.nextIntegrator, Vec3.mul, Vec3.zipWith, Vec3.map,
        Vec3.vertical]
    refine hnorm.trans ?_
    rw [hasked, Vec3.norm_vertical]
    norm_num [p, PilotParameters.standard]

end Multirotor
