import Multirotor.Proofs.Aircraft.Bookkeeping
import Multirotor.Proofs.Pilot.Setpoints

/-!
# Omitted duties

An aircraft that is flown by duties keeps the last list it accepted, zeros before the first.
`Operation.explicit` writes the kept list into every tick that omits it, and `history_explicit` says
that nothing but the record of the last input tells the two histories apart.  With what an autopilot
keeps (`Autopilot.Fresh`) this is all that an aircraft remembers of what it was told
(`Aircraft.setpoints_of_history`).
-/

namespace Multirotor

variable {α : Type} [Scalar α]

/-! ## Operations with all duties written out -/

namespace Operation

/-- The duties that an aircraft with `n` rotors keeps after one more operation. -/
def keep (n : Nat) (kept : List α) : Operation α → List α
  | run _ input => if input.Fits n then input.duties.getD kept else kept
  | setCollision _ => kept
  | body _ => kept
  | reset => List.replicate n 0

omit [Scalar α] in
/-- The operation with given duties for omitted ones. -/
def filled (kept : List α) : Operation α → Operation α
  | run ctx input => run ctx { input with duties := some (input.duties.getD kept) }
  | setCollision c => setCollision c
  | body op => body op
  | reset => reset

/-- The operations with the kept duties in each tick that omits them. -/
def explicit (n : Nat) : List α → List (Operation α) → List (Operation α)
  | _, [] => []
  | kept, op :: ops => op.filled kept :: explicit n (op.keep n kept) ops

end Operation

/-! ## The last input -/

namespace Aircraft

omit [Scalar α] in
/-- The aircraft with another record of its last input. -/
def withLastInput (a : Aircraft α) (input : Option (AircraftInput α)) : Aircraft α :=
  { a with lastInput := input }

omit [Scalar α] in
/-- The aircraft without the duties in its record of the last input. -/
def withoutDuties (a : Aircraft α) : Aircraft α :=
  a.withLastInput (a.lastInput.map fun input => { input with duties := none })

omit [Scalar α] in
theorem eq_withLastInput {a b : Aircraft α} (h : b.withoutDuties = a.withoutDuties) :
    b = a.withLastInput b.lastInput := by
  have hrest := congrArg (·.withLastInput b.lastInput) h
  exact hrest

end Aircraft

omit [Scalar α] in
/-- An outcome without the duties in the record of the last input. -/
def Run.withoutDuties (r : Run α) : Run α := { r with aircraft := r.aircraft.withoutDuties }

namespace Aircraft

variable {a : Aircraft α}

omit [Scalar α] in
theorem takeDuties_withLastInput (i : Option (AircraftInput α)) (duties : Option (List α)) :
    (a.withLastInput i).takeDuties duties = (a.takeDuties duties).map (·.withLastInput i) := by
  cases duties with
  | none => rfl
  | some ds =>
    by_cases hlen : ds.length = a.rotors.length <;> cases hdirect : a.config.directDuties <;>
      simp [takeDuties, withLastInput, hlen, hdirect, Except.map]

/-- A tick does not look at the last input, and replaces it. -/
theorem fly_withLastInput (i : Option (AircraftInput α)) (ctx : TickContext)
    (input : AircraftInput α) : (a.withLastInput i).fly ctx input = a.fly ctx input := by
  refine Prod.ext ?_ ?_
  · rw [fly_fst, fly_fst]
    rfl
  · rw [fly_snd, fly_snd]
    rfl

/-- Duties matter to a tick before it is flown. -/
theorem fly_with_duties (ctx : TickContext) (input : AircraftInput α) (duties : Option (List α)) :
    a.fly ctx { input with duties } =
      ((a.fly ctx input).1.withLastInput (some { input with duties }), (a.fly ctx input).2) := by
  refine Prod.ext ?_ ?_
  · rw [fly_fst, fly_fst]
    rfl
  · rw [fly_snd, fly_snd]
    rfl

/-! ## One operation -/

section Direct

variable (hdirect : a.config.directDuties = true) (hlength : a.duties.length = a.rotors.length)

include hlength in
omit [Scalar α] in
/-- Giving an aircraft the duties that it has changes nothing. -/
theorem takeDuties_getD (duties : Option (List α)) :
    a.takeDuties (some (duties.getD a.duties)) = a.takeDuties duties := by
  cases duties with
  | none =>
    change (if a.duties.length = a.rotors.length then _ else _) = _
    rw [if_pos hlength]
    exact congrArg Except.ok (ite_self a)
  | some ds => rfl

include hlength in
theorem perform_filled (i : Option (AircraftInput α))
    (hi : (a.withLastInput i).withoutDuties = a.withoutDuties) (op : Operation α) :
    ((a.withLastInput i).perform (op.filled a.duties)).withoutDuties =
      (a.perform op).withoutDuties := by
  cases op with
  | run ctx input =>
    simp only [perform, run, Operation.filled, takeDuties_withLastInput, takeDuties_getD hlength]
    cases a.takeDuties input.duties with
    | error f => exact congrArg (Run.mk · [] (some f)) hi
    | ok ready =>
      simp only [Except.map, fly_withLastInput, fly_with_duties]
      rw [fly_fst]
      rfl
  | setCollision c => exact congrArg (fun b => Run.mk (b.setCollision c).1 _ none) hi
  | body op => exact congrArg (fun b => Run.mk { b with body := (b.body.perform op).1 } _ none) hi
  | reset => rfl

include hdirect in
theorem duties_perform (op : Operation α) :
    (a.perform op).aircraft.duties = op.keep a.rotors.length a.duties := by
  cases op with
  | run ctx input =>
    rw [Operation.keep]
    split_ifs with hfits
    · obtain ⟨⟨a', events⟩, hr⟩ := (exists_run_iff ctx).2 hfits
      obtain ⟨ready, ht, rfl, -⟩ := run_cases hr
      obtain rfl := takeDuties_eq_ok ht
      simp only [perform, hr, fly_fst, dutiesFor, hdirect, if_true]
    · rw [perform_of_not_fits hfits]
  | setCollision c => rfl
  | body op => rfl
  | reset => rfl

end Direct

/-! ## Histories -/

/-- Writing out the kept duties changes nothing but the record of the last input. -/
theorem history_explicit {i : Option (AircraftInput α)}
    (hdirect : a.config.directDuties = true) (ha : a.Aligned)
    (hi : (a.withLastInput i).withoutDuties = a.withoutDuties) (ops : List (Operation α)) :
    ((a.withLastInput i).history (Operation.explicit a.rotors.length a.duties ops)).map
        Run.withoutDuties =
      (a.history ops).map Run.withoutDuties := by
  induction ops generalizing a i with
  | nil => rfl
  | cons op ops ih =>
    have hrun := perform_filled ha.duties i hi op
    have hnext := congrArg Run.aircraft hrun
    have hconfig : (a.perform op).aircraft.config = a.config := config_perform ha op
    have ih := ih (hconfig ▸ hdirect) (aligned_perform ha op)
      ((congrArg withoutDuties (eq_withLastInput hnext)).symm.trans hnext)
    rw [← eq_withLastInput hnext, length_rotors_perform ha, duties_perform hdirect] at ih
    rw [Operation.explicit, history, history, List.map_cons, List.map_cons, hrun, ih]

/-! ## What is remembered -/

/-- What is kept of the targets and duties that were given, since the start or the last reset.  A
scripted autopilot holds the last waypoint, or the first pose until one arrives, and steers to its
altitude, its yaw and its place, so that telling it again in each tick changes nothing.  In radio mode
the sticks move the altitude and the heading of the first tick, and no other observation enters.  An
aircraft without an autopilot repeats the last duties that it accepted, zeros before the first. -/
theorem setpoints_of_history :
    (∀ a : Autopilot α, a.Fresh → a.mode = .scripted →
      (∀ before t,
        let now := a.afterTicks before
        let w := a.tracked before t
        let moved := now.travel.run ⟨w.north, w.east⟩ t.seen.position.horizontal
          t.seen.groundVelocity.horizontal t.seen.angles.yaw w.speed
        (a.afterTicks (before ++ [t])).waypoint = some w ∧
          now.guide t.seen t.target =
            ({ altitude := w.altitude, yaw := w.yaw, tilt := moved.1 },
              { now with travel := moved.2, waypoint := some w })) ∧
      ∀ ticks, a.outputs (PilotTick.repeated none ticks) = a.outputs ticks) ∧
    (∀ (a : Autopilot ℝ) (angleDirect : Bool), a.Fresh → a.mode = .radio angleDirect →
      ∀ before t,
        let first := (before.head?.getD t).seen
        let g := ((a.afterTicks before).guide t.seen t.target).1
        g.altitude = -first.position.z + a.climbed (before ++ [t]) ∧
        g.yaw ∈ Set.Ioc (-Real.pi) Real.pi ∧
        (g.yaw : Real.Angle) = (first.angles.yaw + a.turned (before ++ [t]) : ℝ)) ∧
    ∀ (c : Configuration α) r built events, build c r = .ok (built, events) → c.directDuties = true →
      ∀ ops,
        let n := c.rotorCount.toNat
        (built.history (Operation.explicit n (List.replicate n 0) ops)).map Run.withoutDuties =
          (built.history ops).map Run.withoutDuties := by
  refine ⟨fun a hfresh hmode => ⟨fun before t => ?_, fun ticks => ?_⟩,
    fun a angleDirect hfresh hmode before t => ?_, fun c r built events hbuild hdirect ops => ?_⟩
  · have hnone : a.waypoint = none := (congrArg (·.waypoint) hfresh).symm
    exact ⟨Autopilot.waypoint_afterTicks hmode hnone before t,
      Autopilot.guide_tracked hmode hnone before t⟩
  · exact (Autopilot.afterTicks_repeated hmode none (fun w hw => absurd hw (Option.not_mem_none w))
      ticks).1
  · intro first g
    obtain ⟨haltitude, hyaw⟩ := Autopilot.guide_moved hmode
      (congrArg (·.stickAltitude) hfresh).symm (congrArg (·.stickYaw) hfresh).symm before t
    refine ⟨haltitude, ?_, ?_⟩
    · rw [hyaw]
      exact wrapAngle_mem _
    · rw [hyaw]
      exact coe_wrapAngle _
  · intro n
    have hasm := assembly_of_build hbuild
    have hduties : built.duties = List.replicate n 0 := by rw [hasm.duties, hasm.rotorCount]
    have hhistory := history_explicit (i := built.lastInput) (by rwa [hasm.config]) hasm.aligned
      rfl ops
    rwa [hasm.rotorCount, hduties] at hhistory

/-- A waypoint that is told once, a climb that goes on while the stick returns, and duties that are
given in one of two ticks. -/
theorem setpoints_of_history_standard :
    let seenAt (height yaw : ℝ) : Observation ℝ :=
      { position := ⟨0, 0, -height⟩, groundVelocity := 0, bodyVelocity := 0, angularVelocity := 0
        angles := ⟨0, 0, yaw⟩, weather := none }
    let pilot (mode : ControlMode) (mixer : Mixer ℝ) : Autopilot ℝ :=
      .start mode .standard Configuration.standard.airframe 20 mixer 0.001
    let first : PilotTick ℝ :=
      { seen := seenAt 10 3, target := some (.radio (RadioCommand.idle.drive .vertical 1)) }
    let second : PilotTick ℝ := { seen := seenAt 20 1, target := none }
    let told : PilotTick ℝ :=
      { seen := seenAt 10 3, target := some (.waypoint { Waypoint.origin with altitude := 15 }) }
    let tick (duties : Option (List ℝ)) : Operation ℝ :=
      .run { time := 0, useWeather := false, trace := true } { AircraftInput.none with duties }
    let r : Randomness ℝ := .boxMuller fun _ _ => 0
    ∃ mixer built events,
      build { (Configuration.standard : Configuration ℝ) with directDuties := true } r =
        .ok (built, events) ∧
      ((pilot .scripted mixer).afterTicks [told, second]).waypoint =
        some { Waypoint.origin with altitude := 15 } ∧
      (((pilot .scripted mixer).afterTicks [told]).guide second.seen second.target).1.altitude =
        15 ∧
      (pilot .scripted mixer).outputs [told, { second with target := told.target }] =
        (pilot .scripted mixer).outputs [told, second] ∧
      (((pilot (.radio true) mixer).afterTicks [first]).guide second.seen
          second.target).1.altitude =
        10 + (1 * 2.0 * 0.001 + (1 - 0.001) * 2.0 * 0.001) ∧
      (built.history [tick (some [0.1, 0.2, 0.3, 0.4]), tick (some [0.1, 0.2, 0.3, 0.4]), .reset,
          tick (some [0, 0, 0, 0])]).map Run.withoutDuties =
        (built.history [tick (some [0.1, 0.2, 0.3, 0.4]), tick none, .reset, tick none]).map
          Run.withoutDuties := by
  intro seenAt pilot first second told tick r
  obtain ⟨mixer, -⟩ := Mixer.exists_build_square_standard (.proportional 1000)
  obtain ⟨⟨built, events⟩, hbuild⟩ := exists_build_switched .scripted true false r
  obtain ⟨hscripted, hradio, hduties⟩ := setpoints_of_history (α := ℝ)
  have hfresh (mode : ControlMode) : (pilot mode mixer).Fresh := Autopilot.fresh_start ..
  obtain ⟨htracked, hrepeated⟩ := hscripted _ (hfresh .scripted) rfl
  obtain ⟨hheld, hguided⟩ := htracked [told] second
  refine ⟨mixer, built, events, hbuild, hheld, congrArg (·.1.altitude) hguided,
    hrepeated [told, second], ?_,
    hduties _ _ _ _ hbuild rfl [tick (some [0.1, 0.2, 0.3, 0.4]), tick none, .reset, tick none]⟩
  obtain ⟨haltitude, -⟩ := hradio _ true (hfresh _) rfl [first] second
  have hdriven : Transmitter.moveStick (0.001 : ℝ) 0 (some 1) = 1 :=
    Scalar.clamp_of_mem 1 (by norm_num) le_rfl
  have hreleased : Transmitter.moveStick (0.001 : ℝ) 1 none = 1 - 0.001 := by
    have hsign : Scalar.signum (1 : ℝ) = 1 := if_neg (not_lt.2 zero_le_one)
    rw [Transmitter.moveStick, Scalar.abs_real, abs_one, if_neg (by norm_num), hsign, mul_one]
  have hclimbed : (pilot (.radio true) mixer).climbed ([first] ++ [second]) =
      (Transmitter.moveStick (0.001 : ℝ) 0 (some 1) * 2.0 * 0.001 +
        (Transmitter.moveStick (0.001 : ℝ) (Transmitter.moveStick (0.001 : ℝ) 0 (some 1)) none *
          2.0 * 0.001 + 0)) := rfl
  rw [haltitude, hclimbed, hdriven, hreleased, add_zero]
  exact congrArg (· + _) (neg_neg (10 : ℝ))

end Aircraft

end Multirotor
