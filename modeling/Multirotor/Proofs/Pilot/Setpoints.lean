import Multirotor.Proofs.Aircraft.Reset
import Multirotor.Proofs.Space.Angle

/-!
# Setpoints

What an autopilot steers to after any number of ticks since it was started or reset, by the ticks
alone.  In scripted mode that is the last waypoint it was told, or the first pose it was shown
until one arrives (`Autopilot.guide_tracked`), so that a waypoint need not be repeated
(`Autopilot.afterTicks_repeated`).  In radio mode the altitude and the heading are those of the
first tick, moved by the sticks since then (`Autopilot.guide_moved`); where the sticks are in each
tick depends on the commands only (`Transmitter.positions`).
-/

namespace Multirotor

variable {α : Type}

/-! ## Ticks -/

/-- What an autopilot is shown and told in one tick. -/
structure PilotTick (α : Type) where
  seen : Observation α
  target : Option (Target α)
  deriving DecidableEq, Repr

namespace PilotTick

/-- The waypoint that a scripted autopilot receives. -/
def waypoint? (t : PilotTick α) : Option (Waypoint α) := t.target.bind Target.waypoint?

/-- The command that an autopilot in radio mode receives. -/
def command? (t : PilotTick α) : Option (RadioCommand α) := t.target.bind Target.command?

/-- The last waypoint that was received. -/
def latest (ticks : List (PilotTick α)) : Option (Waypoint α) := ticks.reverse.findSome? waypoint?

/-- The ticks with the last waypoint, once there is one, told again in each of them. -/
def repeated : Option (Waypoint α) → List (PilotTick α) → List (PilotTick α)
  | _, [] => []
  | held, t :: ticks =>
    let held := t.waypoint? <|> held
    { t with target := held.map .waypoint } :: repeated held ticks

theorem latest_concat (ticks : List (PilotTick α)) (t : PilotTick α) :
    latest (ticks ++ [t]) = (t.waypoint? <|> latest ticks) := by
  rw [latest, latest, List.reverse_append, List.reverse_singleton, List.singleton_append,
    List.findSome?_cons]
  cases t.waypoint? <;> rfl

end PilotTick

variable [Scalar α]

namespace Autopilot

/-- The autopilot after a sequence of ticks. -/
def afterTicks (a : Autopilot α) (ticks : List (PilotTick α)) : Autopilot α :=
  ticks.foldl (fun a t => (a.run t.seen t.target).2) a

/-- What an autopilot asks for in each of a sequence of ticks. -/
def outputs (a : Autopilot α) : List (PilotTick α) → List (ControlOutput α)
  | [] => []
  | t :: ticks => (a.run t.seen t.target).1 :: (a.run t.seen t.target).2.outputs ticks

/-- Nothing is kept of any tick: the autopilot was just started or reset. -/
def Fresh (a : Autopilot α) : Prop := a.reset = a

theorem fresh_start (mode : ControlMode) (parameters : PilotParameters α) (airframe : Airframe α)
    (maxThrust : α) (mixer : Mixer α) (dt : α) :
    (start mode parameters airframe maxThrust mixer dt).Fresh := reset_start ..

theorem fresh_reset (a : Autopilot α) : a.reset.Fresh := rfl

theorem afterTicks_concat (a : Autopilot α) (ticks : List (PilotTick α)) (t : PilotTick α) :
    a.afterTicks (ticks ++ [t]) = ((a.afterTicks ticks).run t.seen t.target).2 :=
  List.foldl_concat ..

theorem reset_afterTicks (a : Autopilot α) (ticks : List (PilotTick α)) :
    (a.afterTicks ticks).reset = a.reset := by
  induction ticks generalizing a with
  | nil => rfl
  | cons t ticks ih => exact (ih _).trans (reset_run a t.seen t.target)

/-! ## Waypoints -/

/-- The waypoint of a tick by all ticks until then: the last one told, or else the first pose at full
speed. -/
def tracked (a : Autopilot α) (before : List (PilotTick α)) (t : PilotTick α) : Waypoint α :=
  let first := (before.head?.getD t).seen
  (PilotTick.latest (before ++ [t])).getD
    { north := first.position.x
      east := first.position.y
      altitude := -first.position.z
      yaw := first.angles.yaw
      speed := a.parameters.maxSpeed }

section Scripted

variable {a : Autopilot α} (hmode : a.mode = .scripted)

include hmode

theorem run_congr {target target' : Option (Target α)} (o : Observation α)
    (h : (target.bind Target.waypoint? <|> a.waypoint) =
      (target'.bind Target.waypoint? <|> a.waypoint)) : a.run o target = a.run o target' := by
  simp only [run, guide, hmode, guideScripted, h]

theorem waypoint_run (o : Observation α) (target : Option (Target α)) :
    (a.run o target).2.waypoint =
      some ((target.bind Target.waypoint? <|> a.waypoint).getD (a.holdPose o)) := by
  simp only [run, guide, hmode, guideScripted]

theorem mode_run (o : Observation α) (target : Option (Target α)) :
    (a.run o target).2.mode = .scripted :=
  (congrArg (·.mode) (reset_run a o target)).trans hmode

theorem mode_afterTicks (ticks : List (PilotTick α)) : (a.afterTicks ticks).mode = .scripted :=
  (congrArg (·.mode) (reset_afterTicks a ticks)).trans hmode

/-- A waypoint is held from the first tick on. -/
theorem waypoint_afterTicks (hnone : a.waypoint = none) (before : List (PilotTick α))
    (t : PilotTick α) :
    (a.afterTicks (before ++ [t])).waypoint = some (a.tracked before t) := by
  rw [afterTicks_concat, waypoint_run (mode_afterTicks hmode before), tracked,
    PilotTick.latest_concat]
  change some ((t.waypoint? <|> (a.afterTicks before).waypoint).getD _) = _
  induction before using List.reverseRecOn generalizing t with
  | nil =>
    change some ((t.waypoint? <|> a.waypoint).getD _) = _
    rw [hnone]
    rfl
  | append_singleton before t' ih =>
    have hheld : (a.afterTicks (before ++ [t'])).waypoint =
        some ((t'.waypoint? <|> PilotTick.latest before).getD
          (a.holdPose (before.head?.getD t').seen)) := by
      rw [afterTicks_concat, waypoint_run (mode_afterTicks hmode before)]
      exact ih t'
    rw [hheld, ← PilotTick.latest_concat]
    cases t.waypoint? with
    | some w => rfl
    | none => cases before <;> rfl

/-- The autopilot steers to the tracked waypoint in every tick: to its altitude and yaw, and with the
tilt that leads to its place at its speed. -/
theorem guide_tracked (hnone : a.waypoint = none) (before : List (PilotTick α))
    (t : PilotTick α) :
    let now := a.afterTicks before
    let w := a.tracked before t
    let moved := now.travel.run ⟨w.north, w.east⟩ t.seen.position.horizontal
      t.seen.groundVelocity.horizontal t.seen.angles.yaw w.speed
    now.guide t.seen t.target =
      ({ altitude := w.altitude, yaw := w.yaw, tilt := moved.1 },
        { now with travel := moved.2, waypoint := some w }) := by
  have hheld := waypoint_afterTicks hmode hnone before t
  rw [afterTicks_concat, waypoint_run (mode_afterTicks hmode before)] at hheld
  simp only [guide, mode_afterTicks hmode before, guideScripted, Option.some.inj hheld]

/-- Telling a waypoint again changes nothing. -/
theorem afterTicks_repeated (held : Option (Waypoint α)) (h : ∀ w ∈ held, a.waypoint = some w)
    (ticks : List (PilotTick α)) :
    a.outputs (PilotTick.repeated held ticks) = a.outputs ticks ∧
      a.afterTicks (PilotTick.repeated held ticks) = a.afterTicks ticks := by
  induction ticks generalizing a held with
  | nil => exact ⟨rfl, rfl⟩
  | cons t ticks ih =>
    have hrun : a.run t.seen ((t.waypoint? <|> held).map .waypoint) = a.run t.seen t.target := by
      refine run_congr hmode t.seen ?_
      change _ = (t.waypoint? <|> a.waypoint)
      cases ht : t.waypoint? with
      | some w => rfl
      | none =>
        cases held with
        | none => rfl
        | some w => exact (h w rfl).symm
    have hheld : ∀ w ∈ (t.waypoint? <|> held), (a.run t.seen t.target).2.waypoint = some w := by
      intro w hw
      rw [waypoint_run hmode]
      change some ((t.waypoint? <|> a.waypoint).getD _) = some w
      cases ht : t.waypoint? with
      | some w' =>
        rw [ht] at hw
        exact hw
      | none =>
        rw [ht] at hw
        rw [h w hw]
        rfl
    obtain ⟨houtputs, hfollow⟩ := ih (mode_run hmode t.seen t.target) _ hheld
    rw [PilotTick.repeated, outputs, outputs, hrun, houtputs]
    refine ⟨rfl, ?_⟩
    change ((a.run t.seen _).2).afterTicks _ = ((a.run t.seen _).2).afterTicks _
    rw [hrun, hfollow]

end Scripted

/-! ## Sticks -/

end Autopilot

/-- Where the sticks are after each of a sequence of commands, with a tick of so many microseconds
for each. -/
def Transmitter.positions (t : Transmitter α) (elapsed : UInt64) :
    List (Option (RadioCommand α)) → List (Sticks α)
  | [] => []
  | command :: commands =>
    (t.update command elapsed).sticks :: (t.update command elapsed).positions elapsed commands

namespace Autopilot

/-- The sticks after each of a sequence of ticks. -/
def positions (a : Autopilot α) (ticks : List (PilotTick α)) : List (Sticks α) :=
  a.transmitter.positions a.dtMicros (ticks.map PilotTick.command?)

/-- How far the sticks move the altitude in a sequence of ticks. -/
noncomputable def climbed (a : Autopilot ℝ) (ticks : List (PilotTick ℝ)) : ℝ :=
  ((a.positions ticks).map fun s => s.vertical * a.parameters.maxClimbRate * a.dt).sum

/-- How far the sticks move the heading in a sequence of ticks. -/
noncomputable def turned (a : Autopilot ℝ) (ticks : List (PilotTick ℝ)) : ℝ :=
  ((a.positions ticks).map fun s => s.heading * a.parameters.maxYawRate * a.dt).sum

section Radio

variable {a : Autopilot ℝ} {angleDirect : Bool} (hmode : a.mode = .radio angleDirect)

include hmode

theorem stickAltitude_run (o : Observation ℝ) (target : Option (Target ℝ)) :
    (a.run o target).2.stickAltitude = some (a.guide o target).1.altitude := by
  simp only [run, guide, hmode, guideByRadio]

theorem stickYaw_run (o : Observation ℝ) (target : Option (Target ℝ)) :
    (a.run o target).2.stickYaw = some (a.guide o target).1.yaw := by
  simp only [run, guide, hmode, guideByRadio]

theorem transmitter_run (o : Observation ℝ) (target : Option (Target ℝ)) :
    (a.run o target).2.transmitter =
      a.transmitter.update (target.bind Target.command?) a.dtMicros := by
  simp only [run, guide, hmode, guideByRadio]

theorem altitude_guide (o : Observation ℝ) (target : Option (Target ℝ)) :
    (a.guide o target).1.altitude = a.stickAltitude.getD (-o.position.z) +
      (a.transmitter.update (target.bind Target.command?) a.dtMicros).sticks.vertical *
        a.parameters.maxClimbRate * a.dt := by
  simp only [guide, hmode, guideByRadio]

theorem yaw_guide (o : Observation ℝ) (target : Option (Target ℝ)) :
    (a.guide o target).1.yaw = wrapAngle (a.stickYaw.getD o.angles.yaw +
      (a.transmitter.update (target.bind Target.command?) a.dtMicros).sticks.heading *
        a.parameters.maxYawRate * a.dt) := by
  simp only [guide, hmode, guideByRadio]

theorem mode_radio_run (o : Observation ℝ) (target : Option (Target ℝ)) :
    (a.run o target).2.mode = .radio angleDirect :=
  (congrArg (·.mode) (reset_run a o target)).trans hmode

theorem positions_cons (t : PilotTick ℝ) (ticks : List (PilotTick ℝ)) :
    a.positions (t :: ticks) = (a.transmitter.update t.command? a.dtMicros).sticks ::
      (a.run t.seen t.target).2.positions ticks := by
  have hmicros : (a.run t.seen t.target).2.dtMicros = a.dtMicros :=
    congrArg (·.dtMicros) (reset_run a t.seen t.target)
  rw [positions, positions, transmitter_run hmode, hmicros]
  rfl

theorem climbed_cons (t : PilotTick ℝ) (ticks : List (PilotTick ℝ)) :
    a.climbed (t :: ticks) = (a.transmitter.update t.command? a.dtMicros).sticks.vertical *
      a.parameters.maxClimbRate * a.dt + (a.run t.seen t.target).2.climbed ticks := by
  have hkept := reset_run a t.seen t.target
  have hparameters : (a.run t.seen t.target).2.parameters = a.parameters :=
    congrArg (·.parameters) hkept
  have hdt : (a.run t.seen t.target).2.dt = a.dt := congrArg (·.dt) hkept
  rw [climbed, climbed, positions_cons hmode, List.map_cons, List.sum_cons, hparameters, hdt]

theorem turned_cons (t : PilotTick ℝ) (ticks : List (PilotTick ℝ)) :
    a.turned (t :: ticks) = (a.transmitter.update t.command? a.dtMicros).sticks.heading *
      a.parameters.maxYawRate * a.dt + (a.run t.seen t.target).2.turned ticks := by
  have hkept := reset_run a t.seen t.target
  have hparameters : (a.run t.seen t.target).2.parameters = a.parameters :=
    congrArg (·.parameters) hkept
  have hdt : (a.run t.seen t.target).2.dt = a.dt := congrArg (·.dt) hkept
  rw [turned, turned, positions_cons hmode, List.map_cons, List.sum_cons, hparameters, hdt]

/-- The held altitude and heading after a first tick and others. -/
theorem sticks_afterTicks (first : PilotTick ℝ) (rest : List (PilotTick ℝ)) :
    (a.afterTicks (first :: rest)).stickAltitude =
        some (a.stickAltitude.getD (-first.seen.position.z) + a.climbed (first :: rest)) ∧
      (a.afterTicks (first :: rest)).stickYaw =
        some (wrapAngle (a.stickYaw.getD first.seen.angles.yaw + a.turned (first :: rest))) := by
  induction rest generalizing a first with
  | nil =>
    change (a.run first.seen first.target).2.stickAltitude = _ ∧
      (a.run first.seen first.target).2.stickYaw = _
    rw [stickAltitude_run hmode, stickYaw_run hmode, altitude_guide hmode, yaw_guide hmode]
    simp only [climbed, turned, positions, Transmitter.positions, List.map_cons, List.map_nil,
      List.sum_cons, List.sum_nil, add_zero]
    exact ⟨rfl, rfl⟩
  | cons second rest ih =>
    obtain ⟨haltitude, hyaw⟩ := ih (mode_radio_run hmode first.seen first.target) second
    rw [climbed_cons hmode, turned_cons hmode]
    change ((a.run first.seen first.target).2.afterTicks _).stickAltitude = _ ∧
      ((a.run first.seen first.target).2.afterTicks _).stickYaw = _
    rw [haltitude, hyaw, stickAltitude_run hmode, stickYaw_run hmode, altitude_guide hmode,
      yaw_guide hmode]
    refine ⟨congrArg some (add_assoc _ _ _), congrArg some (wrapAngle_congr ?_)⟩
    rw [Option.getD_some, Real.Angle.coe_add, coe_wrapAngle, ← Real.Angle.coe_add, add_assoc]
    rfl

/-- The altitude and the heading in a tick, by all ticks until then. -/
theorem guide_moved (haltitude : a.stickAltitude = none) (hyaw : a.stickYaw = none)
    (before : List (PilotTick ℝ)) (t : PilotTick ℝ) :
    ((a.afterTicks before).guide t.seen t.target).1.altitude =
        -(before.head?.getD t).seen.position.z + a.climbed (before ++ [t]) ∧
      ((a.afterTicks before).guide t.seen t.target).1.yaw =
        wrapAngle ((before.head?.getD t).seen.angles.yaw + a.turned (before ++ [t])) := by
  have hmode' : (a.afterTicks before).mode = .radio angleDirect :=
    (congrArg (·.mode) (reset_afterTicks a before)).trans hmode
  have hfollow : (a.afterTicks (before ++ [t])).stickAltitude =
        some (-(before.head?.getD t).seen.position.z + a.climbed (before ++ [t])) ∧
      (a.afterTicks (before ++ [t])).stickYaw =
        some (wrapAngle ((before.head?.getD t).seen.angles.yaw + a.turned (before ++ [t]))) := by
    cases before with
    | nil =>
      have h := sticks_afterTicks hmode t []
      rwa [haltitude, hyaw] at h
    | cons first rest =>
      have h := sticks_afterTicks hmode first (rest ++ [t])
      rwa [haltitude, hyaw] at h
  rw [afterTicks_concat, stickAltitude_run hmode', stickYaw_run hmode'] at hfollow
  exact ⟨Option.some.inj hfollow.1, Option.some.inj hfollow.2⟩

end Radio

end Autopilot

end Multirotor
