import Mathlib.Tactic.SplitIfs
import Multirotor.Aircraft.Flight
import Multirotor.Proofs.Body.Stages
import Multirotor.Proofs.Mixing.Build

/-!
# Operations on an aircraft

Everything that a caller can do to an aircraft after it was built: `Operation` lists the ways, any
use of the body among them, and `Aircraft.perform` does one of them.  A refused tick leaves the
aircraft as it is.  `Aircraft.after` is the aircraft after a sequence of operations and
`Aircraft.history` what came of each of them.

The rotors, the queued duties, the mounts and the rows of the mixer are lists that are kept apart
and zipped in every tick.  `Aircraft.Aligned` says that they have one length, and no operation
changes that.
-/

namespace Multirotor

/-! ## Operations -/

/-- A use of the aircraft. -/
inductive Operation (α : Type) where
  | run (ctx : TickContext) (input : AircraftInput α)
  | setCollision (c : Collision α)
  | body (op : BodyOperation α)
  | reset
  deriving DecidableEq, Repr

/-- What came of an operation. -/
structure Run (α : Type) where
  aircraft : Aircraft α
  events : List (Event α)
  /-- What the operation was refused for. -/
  fault : Option (Fault α)

variable {α : Type} [Scalar α]

namespace Aircraft

/-- The outcome of an operation; the aircraft is unchanged after a fault. -/
def perform (a : Aircraft α) : Operation α → Run α
  | .run ctx input =>
    match a.run ctx input with
    | .ok (aircraft, events) => { aircraft, events, fault := none }
    | .error f => { aircraft := a, events := [], fault := some f }
  | .setCollision c =>
    { aircraft := (a.setCollision c).1, events := (a.setCollision c).2, fault := none }
  | .body op =>
    { aircraft := { a with body := (a.body.perform op).1 }
      events := (a.body.perform op).2.map .body
      fault := none }
  | .reset => { aircraft := a.reset.1, events := a.reset.2, fault := none }

/-- The aircraft after a sequence of operations. -/
def after (a : Aircraft α) (ops : List (Operation α)) : Aircraft α :=
  ops.foldl (fun a op => (a.perform op).aircraft) a

/-- The outcomes of a sequence of operations, one by one. -/
def history (a : Aircraft α) : List (Operation α) → List (Run α)
  | [] => []
  | op :: ops => a.perform op :: history (a.perform op).aircraft ops

@[simp] theorem after_nil (a : Aircraft α) : a.after [] = a := rfl

@[simp] theorem after_cons (a : Aircraft α) (op : Operation α) (ops : List (Operation α)) :
    a.after (op :: ops) = (a.perform op).aircraft.after ops := rfl

/-! ## The parts of a tick -/

/-- A tick is either refused or flown from the aircraft with its duties queued. -/
theorem run_cases {a a' : Aircraft α} {ctx : TickContext} {input : AircraftInput α}
    {events : List (Event α)} (h : a.run ctx input = .ok (a', events)) :
    ∃ ready, a.takeDuties input.duties = .ok ready ∧ a' = (ready.fly ctx input).1 ∧
      events = (ready.fly ctx input).2 := by
  unfold run at h
  cases ht : a.takeDuties input.duties with
  | error f => simp [ht, Except.map] at h
  | ok ready =>
    simp only [ht, Except.map, Except.ok.injEq] at h
    exact ⟨ready, rfl, by rw [h], by rw [h]⟩

omit [Scalar α] in
/-- Duties are queued in the right number or not at all, and nothing else changes. -/
theorem takeDuties_cases {a ready : Aircraft α} {duties : Option (List α)}
    (h : a.takeDuties duties = .ok ready) :
    ready = a ∨ ∃ ds, duties = some ds ∧ ds.length = a.rotors.length ∧
      ready = { a with duties := ds } := by
  cases duties with
  | none =>
    simp only [takeDuties, Except.ok.injEq] at h
    exact .inl h.symm
  | some ds =>
    simp only [takeDuties] at h
    split_ifs at h with hlen hdirect
    · simp only [Except.ok.injEq] at h
      exact .inr ⟨ds, rfl, hlen, h.symm⟩
    · simp only [Except.ok.injEq] at h
      exact .inl h.symm

/-- What the body is given in a tick. -/
def bodyInput (a : Aircraft α) (ctx : TickContext) (input : AircraftInput α) : BodyInput α :=
  let weather := a.effectiveWeather ctx input
  { wrench := input.wrench.getD (a.spinRotors weather).propulsion.wrench
    manual := input.manual
    weather }

/-- What the instruments and the autopilot see in a tick. -/
def observed (a : Aircraft α) (ctx : TickContext) (input : AircraftInput α) : Observation α :=
  { a with body := (a.body.run (a.bodyInput ctx input)).1 }.observe (a.effectiveWeather ctx input)

/-- The autopilot's answer in a tick. -/
def steered (a : Aircraft α) (ctx : TickContext) (input : AircraftInput α) :
    ControlOutput α × Autopilot α :=
  a.autopilot.run (a.observed ctx input) input.target

/-- The aircraft after a tick, part by part. -/
theorem fly_fst (a : Aircraft α) (ctx : TickContext) (input : AircraftInput α) :
    (a.fly ctx input).1 =
      { a with
        rotors := (a.spinRotors (a.effectiveWeather ctx input)).rotors
        propulsion := (a.spinRotors (a.effectiveWeather ctx input)).propulsion
        body := (a.body.run (a.bodyInput ctx input)).1
        panel := a.panel.run (a.observed ctx input)
        autopilot := if a.config.directDuties then a.autopilot else (a.steered ctx input).2
        duties := if a.config.directDuties then a.duties else (a.steered ctx input).1.duties
        demand := if a.config.directDuties then a.demand else (a.steered ctx input).1.demand
        time := a.time + a.dtMicros
        ticks := a.ticks + 1
        lastInput := some input } := by
  cases h : a.config.directDuties <;> simp only [fly, steer, spinRotors, h] <;> rfl

/-- What is told in a tick. -/
theorem fly_snd (a : Aircraft α) (ctx : TickContext) (input : AircraftInput α) :
    (a.fly ctx input).2 =
      (a.body.run (a.bodyInput ctx input)).2.map .body ++
        (if a.config.directDuties then []
          else [.control (a.steered ctx input).1.demand (a.steered ctx input).1.tilt]) ++
        if ctx.trace then
          [.tick ctx.time (a.ticks + 1) (a.observed ctx input).position
            (a.observed ctx input).angles (a.bodyInput ctx input).wrench.thrust]
        else [] := by
  cases h : a.config.directDuties <;> simp only [fly, steer, spinRotors, h] <;> rfl

/-! ## The parts of a history -/

/-- The body goes through operations of its own, whatever is done to the aircraft. -/
theorem body_perform (a : Aircraft α) (op : Operation α) :
    (a.perform op).aircraft.body = a.body ∨
      ∃ bodyOp, (a.perform op).aircraft.body = (a.body.perform bodyOp).1 := by
  cases op with
  | run ctx input =>
    simp only [perform]
    split
    · next a' events hr =>
      obtain ⟨ready, ht, rfl, -⟩ := run_cases hr
      obtain rfl | ⟨ds, -, -, rfl⟩ := takeDuties_cases ht <;>
        exact .inr ⟨.run _, congrArg (·.body) (fly_fst _ ctx input)⟩
    · exact .inl rfl
  | setCollision c => exact .inr ⟨.setCollision c, rfl⟩
  | body op => exact .inr ⟨op, rfl⟩
  | reset => exact .inr ⟨.reset, rfl⟩

/-- What every operation on a body preserves holds of the body of an aircraft at any time. -/
theorem body_after {P : RigidBody α → Prop} (step : ∀ b op, P b → P (b.perform op).1)
    {a : Aircraft α} (h : P a.body) (ops : List (Operation α)) : P (a.after ops).body := by
  induction ops generalizing a with
  | nil => exact h
  | cons op ops ih =>
    refine ih ?_
    obtain heq | ⟨bodyOp, heq⟩ := a.body_perform op
    · exact heq ▸ h
    · exact heq ▸ step _ bodyOp h

/-- The instruments are run and reset and nothing else. -/
theorem panel_perform (a : Aircraft α) (op : Operation α) :
    (a.perform op).aircraft.panel = a.panel ∨
      (∃ o, (a.perform op).aircraft.panel = a.panel.run o) ∨
      (a.perform op).aircraft.panel = a.panel.reset := by
  cases op with
  | run ctx input =>
    simp only [perform]
    split
    · next a' events hr =>
      obtain ⟨ready, ht, rfl, -⟩ := run_cases hr
      obtain rfl | ⟨ds, -, -, rfl⟩ := takeDuties_cases ht <;>
        exact .inr (.inl ⟨_, congrArg (·.panel) (fly_fst _ ctx input)⟩)
    · exact .inl rfl
  | setCollision c => exact .inl rfl
  | body op => exact .inl rfl
  | reset => exact .inr (.inr rfl)

/-- What a tick and a reset of the instruments preserve holds of them at any time. -/
theorem panel_after {P : Panel α → Prop} (run : ∀ p o, P p → P (p.run o))
    (reset : ∀ p, P p → P p.reset) {a : Aircraft α} (h : P a.panel) (ops : List (Operation α)) :
    P (a.after ops).panel := by
  induction ops generalizing a with
  | nil => exact h
  | cons op ops ih =>
    refine ih ?_
    obtain heq | ⟨o, heq⟩ | heq := a.panel_perform op
    · exact heq ▸ h
    · exact heq ▸ run _ o h
    · exact heq ▸ reset _ h

/-! ## Lists of one length -/

/-- The lists with one entry for each rotor have one length. -/
structure Aligned (a : Aircraft α) : Prop where
  duties : a.duties.length = a.rotors.length
  mounts : a.propulsion.mounts.length = a.rotors.length
  mixer : a.autopilot.mixer.rotorCount = a.rotors.length

theorem length_spinRotors {a : Aircraft α} (h : a.Aligned) (weather : Option (Weather α)) :
    (a.spinRotors weather).rotors.length = a.rotors.length := by
  simp [spinRotors, h.duties]

end Aircraft

theorem Autopilot.run_mixer (a : Autopilot α) (o : Observation α) (target : Option (Target α)) :
    (a.run o target).2.mixer = a.mixer := by
  cases h : a.mode <;> simp only [Autopilot.run, Autopilot.guide, h] <;> rfl

theorem Autopilot.length_duties (a : Autopilot α) (o : Observation α)
    (target : Option (Target α)) : (a.run o target).1.duties.length = a.mixer.rotorCount := by
  cases h : a.mode <;> simp only [Autopilot.run, Autopilot.guide, h] <;>
    exact Mixer.length_duties _ _

namespace Aircraft

omit [Scalar α] in
theorem aligned_takeDuties {a ready : Aircraft α} (h : a.Aligned) {duties : Option (List α)}
    (ht : a.takeDuties duties = .ok ready) : ready.Aligned := by
  obtain rfl | ⟨ds, -, hlen, rfl⟩ := takeDuties_cases ht
  · exact h
  · exact ⟨hlen, h.mounts, h.mixer⟩

theorem aligned_fly {a : Aircraft α} (h : a.Aligned) (ctx : TickContext) (input : AircraftInput α) :
    (a.fly ctx input).1.Aligned := by
  have hlen := length_spinRotors h (a.effectiveWeather ctx input)
  rw [fly_fst]
  constructor
  · dsimp only
    split_ifs
    · rw [hlen, h.duties]
    · rw [hlen, steered, Autopilot.length_duties, h.mixer]
  · exact h.mounts.trans hlen.symm
  · dsimp only
    split_ifs
    · rw [hlen, h.mixer]
    · rw [hlen, steered, Autopilot.run_mixer, h.mixer]

theorem aligned_perform {a : Aircraft α} (h : a.Aligned) (op : Operation α) :
    (a.perform op).aircraft.Aligned := by
  cases op with
  | run ctx input =>
    simp only [perform]
    split
    · rename_i a' events hr
      obtain ⟨ready, ht, rfl, -⟩ := run_cases hr
      exact aligned_fly (aligned_takeDuties h ht) ctx input
    · exact h
  | setCollision c => exact ⟨h.duties, h.mounts, h.mixer⟩
  | body op => exact ⟨h.duties, h.mounts, h.mixer⟩
  | reset =>
    refine ⟨?_, ?_, ?_⟩
    · simp [perform, reset]
    · simpa [perform, reset, Propulsion.reset] using h.mounts
    · simpa [perform, reset, Autopilot.reset] using h.mixer

theorem aligned_after {a : Aircraft α} (ha : a.Aligned) (ops : List (Operation α)) :
    (a.after ops).Aligned := by
  induction ops generalizing a with
  | nil => exact ha
  | cons op ops ih => exact ih (aligned_perform ha op)

/-! ## The number of rotors -/

theorem length_rotors_run {a : Aircraft α} (ha : a.Aligned) {ctx : TickContext}
    {input : AircraftInput α} {a' : Aircraft α} {events : List (Event α)}
    (h : a.run ctx input = .ok (a', events)) :
    a'.rotors.length = a.rotors.length := by
  obtain ⟨ready, ht, rfl, -⟩ := run_cases h
  have hready : ready.rotors.length = a.rotors.length := by
    obtain rfl | ⟨ds, -, -, rfl⟩ := takeDuties_cases ht <;> rfl
  rw [← hready, ← length_spinRotors (aligned_takeDuties ha ht) (ready.effectiveWeather ctx input),
    fly_fst]

theorem length_rotors_perform {a : Aircraft α} (ha : a.Aligned) (op : Operation α) :
    (a.perform op).aircraft.rotors.length = a.rotors.length := by
  cases op with
  | run ctx input =>
    simp only [perform]
    split
    · next hr => exact length_rotors_run ha hr
    · rfl
  | setCollision c => rfl
  | body op => rfl
  | reset => exact List.length_map _

theorem length_rotors_after {a : Aircraft α} (ha : a.Aligned) (ops : List (Operation α)) :
    (a.after ops).rotors.length = a.rotors.length := by
  induction ops generalizing a with
  | nil => rfl
  | cons op ops ih => rw [after_cons, ih (aligned_perform ha op), length_rotors_perform ha]

end Aircraft

end Multirotor
