import Multirotor.Proofs.Aircraft.Pending
import Multirotor.Proofs.Aircraft.Reset

/-!
# Bookkeeping

Beside its physics an aircraft keeps a clock, the number of its ticks and its last input, and lists
with one entry for each rotor.  `Operation.log` collects the inputs of the ticks that ran since the
aircraft was built or last reset, and `Aircraft.Counts` says that the counters are those of a log;
every operation preserves that (`counts_perform`).  A tick never passes the end of a list: what it
zips is indexed by one and the same rotors (`exists_rotors_run`).

A tick whose duties do not fit is refused.  `Aircraft.runInPlace` is the tick of an aircraft that is
changed piece by piece, so that a fault leaves it as it was at that moment; `runInPlace_eq` says
that nothing was changed until then.
-/

namespace Multirotor

variable {α : Type}

/-! ## The log -/

namespace Operation

/-- The inputs of the ticks that ran since the last reset, the latest first, after one more operation
on an aircraft with `n` rotors. -/
def log (n : Nat) (inputs : List (AircraftInput α)) : Operation α → List (AircraftInput α)
  | run _ input => if input.Fits n then input :: inputs else inputs
  | setCollision _ => inputs
  | body _ => inputs
  | reset => []

end Operation

namespace Aircraft

/-- The counters are those of an aircraft that ran with the inputs of a log. -/
structure Counts (a : Aircraft α) (inputs : List (AircraftInput α)) : Prop where
  ticks : a.ticks = .ofNat inputs.length
  time : a.time = .ofNat inputs.length * a.dtMicros
  lastInput : a.lastInput = inputs.head?

variable [Scalar α]

/-- The duties of a tick: those that are given to an aircraft that is flown by them, and else those
that are queued. -/
def dutiesFor (a : Aircraft α) (input : AircraftInput α) : List α :=
  if a.config.directDuties then input.duties.getD a.duties else a.duties

omit [Scalar α] in
theorem takeDuties_eq_ok {a ready : Aircraft α} {input : AircraftInput α}
    (h : a.takeDuties input.duties = .ok ready) :
    ready = { a with duties := a.dutiesFor input } := by
  unfold takeDuties at h
  unfold dutiesFor
  cases hd : input.duties with
  | none =>
    rw [hd] at h
    obtain rfl := Except.ok.inj h
    rw [Option.getD_none, ite_self]
  | some ds =>
    rw [hd] at h
    dsimp only at h
    split_ifs at h with hlen hdirect <;> obtain rfl := Except.ok.inj h
    · rw [if_pos hdirect, Option.getD_some]
    · rw [if_neg hdirect]

theorem counts_fly {a : Aircraft α} {inputs : List (AircraftInput α)} (h : a.Counts inputs)
    (ctx : TickContext) (input : AircraftInput α) :
    (a.fly ctx input).1.Counts (input :: inputs) := by
  have hlen : UInt64.ofNat (input :: inputs).length = .ofNat inputs.length + 1 := by
    rw [List.length_cons, UInt64.ofNat_add]
    rfl
  rw [fly_fst]
  exact
    { ticks := by rw [hlen, ← h.ticks]
      time := by rw [hlen, UInt64.add_mul, UInt64.one_mul, ← h.time]
      lastInput := rfl }

theorem counts_perform {a : Aircraft α} {inputs : List (AircraftInput α)} (h : a.Counts inputs)
    (op : Operation α) : (a.perform op).aircraft.Counts (op.log a.rotors.length inputs) := by
  cases op with
  | run ctx input =>
    rw [Operation.log]
    split_ifs with hfits
    · obtain ⟨⟨a', events⟩, hr⟩ := (exists_run_iff ctx).2 hfits
      obtain ⟨ready, ht, rfl, -⟩ := run_cases hr
      obtain rfl := takeDuties_eq_ok ht
      simp only [perform, hr]
      exact counts_fly (a := { a with duties := a.dutiesFor input })
        ⟨h.ticks, h.time, h.lastInput⟩ ctx input
    · rw [perform_of_not_fits hfits]
      exact h
  | setCollision c => exact ⟨h.ticks, h.time, h.lastInput⟩
  | body op => exact ⟨h.ticks, h.time, h.lastInput⟩
  | reset => exact ⟨rfl, (UInt64.zero_mul).symm, rfl⟩

theorem counts_after {a : Aircraft α} (ha : a.Aligned) {inputs : List (AircraftInput α)}
    (h : a.Counts inputs) (ops : List (Operation α)) :
    (a.after ops).Counts (ops.foldl (Operation.log a.rotors.length) inputs) := by
  induction ops generalizing a inputs with
  | nil => exact h
  | cons op ops ih =>
    have ih := ih (aligned_perform ha op) (counts_perform h op)
    rwa [length_rotors_perform ha] at ih

theorem Assembly.counts {c : Configuration α} {r : Randomness α} {a : Aircraft α}
    (h : Assembly c r a) : a.Counts [] :=
  ⟨h.ticks, by rw [h.time]; exact (UInt64.zero_mul).symm, h.lastInput⟩

omit [Scalar α] in
/-- Fewer ticks than a word can count are counted as they are. -/
theorem Counts.ticks_eq_zero_iff {a : Aircraft α} {inputs : List (AircraftInput α)}
    (h : a.Counts inputs) (hlt : inputs.length < 2 ^ 64) : a.ticks = 0 ↔ inputs = [] := by
  rw [h.ticks, ← UInt64.toNat_inj, UInt64.toNat_ofNat', Nat.mod_eq_of_lt hlt]
  exact List.length_eq_zero_iff

omit [Scalar α] in
theorem Counts.toNat_time {a : Aircraft α} {inputs : List (AircraftInput α)}
    (h : a.Counts inputs) : a.time.toNat = inputs.length * a.dtMicros.toNat % 2 ^ 64 := by
  rw [h.time, UInt64.toNat_mul, UInt64.toNat_ofNat', Nat.mod_mul_mod]

end Aircraft

/-! ## The rotors of a tick -/

theorem exists_eq_ofFn {β : Type} {n : Nat} {l : List β} (h : l.length = n) :
    ∃ f : Fin n → β, l = List.ofFn f := by
  subst h
  exact ⟨l.get, (List.ofFn_get l).symm⟩

theorem zip_ofFn {β γ : Type} {n : Nat} (f : Fin n → β) (g : Fin n → γ) :
    (List.ofFn f).zip (List.ofFn g) = List.ofFn fun i => (f i, g i) :=
  List.ext_getElem (by simp) fun i _ _ => by simp

namespace Aircraft

variable [Scalar α]

/-- The pressure on the blades in a tick. -/
def bladePressure (a : Aircraft α) (ctx : TickContext) (input : AircraftInput α) : α :=
  if (a.effectiveWeather ctx input).isSome then a.panel.pressureAtm else 1

/-- The rotors of a tick, one by one: each turns at its own duty, and the thrust and the torque are
summed over the same rotors. -/
structure Turns {n : Nat} (c : RotorConstants α) (rotor : Fin n → Rotor α) (duty : Fin n → α)
    (mount : Fin n → Mount α) (atm : α) (a : Aircraft α) : Prop where
  rotors : a.rotors = List.ofFn fun i => (rotor i).run (duty i)
  thrust : a.propulsion.wrench.thrust = totalThrust (List.ofFn fun i =>
    bladeThrust c.thrustCoefficient ((rotor i).run (duty i)).spin.speed atm)
  torque : a.propulsion.wrench.torque = totalTorque (List.ofFn fun i =>
    (mount i, bladeThrust c.thrustCoefficient ((rotor i).run (duty i)).spin.speed atm,
      bladeReaction c.torqueCoefficient c.inertia ((rotor i).run (duty i)).spin.speed
        ((rotor i).run (duty i)).spin.acceleration (mount i).ccw))

theorem turns_fly {n : Nat} {a : Aircraft α} {rotor : Fin n → Rotor α} {duty : Fin n → α}
    {mount : Fin n → Mount α} (hrotor : a.rotors = List.ofFn rotor)
    (hduty : a.duties = List.ofFn duty) (hmount : a.propulsion.mounts = List.ofFn mount)
    (ctx : TickContext) (input : AircraftInput α) :
    (a.fly ctx input).1.Turns a.propulsion.constants rotor duty mount
      (a.bladePressure ctx input) := by
  have hrotors : (a.spinRotors (a.effectiveWeather ctx input)).rotors =
      List.ofFn fun i => (rotor i).run (duty i) := by
    simp only [spinRotors, hrotor, hduty, zip_ofFn, List.map_ofFn]
    rfl
  rw [fly_fst]
  refine ⟨hrotors, ?_, ?_⟩
  · change bodyThrust _ (((a.spinRotors (a.effectiveWeather ctx input)).rotors.map
      (·.spin)).map (·.speed)) _ = _
    simp only [hrotors, bodyThrust, List.map_ofFn]
    rfl
  · change bodyTorque _ a.propulsion.mounts
      ((a.spinRotors (a.effectiveWeather ctx input)).rotors.map (·.spin)) _ = _
    simp only [hrotors, hmount, bodyTorque, List.map_ofFn, zip_ofFn]
    rfl

/-! ## Refused ticks -/

/-- Queues given duties in an aircraft that is changed piece by piece; a fault leaves it as it is by
then. -/
def takeDutiesInPlace (duties : Option (List α)) : EStateM (Fault α) (Aircraft α) Unit := do
  let a ← get
  match duties with
  | some duties =>
    if duties.length = a.rotors.length then
      if a.config.directDuties then set { a with duties }
    else throw (.dutyCount a.rotors.length duties.length)
  | none => return

/-- The stages of a tick of an aircraft that is changed piece by piece. -/
def flyInPlace (ctx : TickContext) (input : AircraftInput α) :
    EStateM (Fault α) (Aircraft α) (List (Event α)) := do
  let weather := (← get).effectiveWeather ctx input
  modify fun a => a.spinRotors weather
  let wrench := input.wrench.getD (← get).propulsion.wrench
  let (body, bodyEvents) := (← get).body.run { wrench, manual := input.manual, weather }
  modify fun a => { a with body }
  let observation := (← get).observe weather
  modify fun a => { a with panel := a.panel.run observation }
  let (steered, controlEvents) := (← get).steer observation input.target
  set steered
  modify fun a =>
    { a with time := a.time + a.dtMicros, ticks := a.ticks + 1, lastInput := some input }
  let ticks := (← get).ticks
  let tickEvents :=
    if ctx.trace then
      [.tick ctx.time ticks observation.position observation.angles wrench.thrust]
    else []
  return bodyEvents.map .body ++ controlEvents ++ tickEvents

/-- One tick of an aircraft that is changed piece by piece. -/
def runInPlace (ctx : TickContext) (input : AircraftInput α) :
    EStateM (Fault α) (Aircraft α) (List (Event α)) := do
  takeDutiesInPlace input.duties
  flyInPlace ctx input

omit [Scalar α] in
theorem takeDutiesInPlace_run (a : Aircraft α) (duties : Option (List α)) :
    (takeDutiesInPlace duties).run a =
      match a.takeDuties duties with
      | .ok ready => .ok () ready
      | .error f => .error f a := by
  cases duties with
  | none => rfl
  | some ds =>
    change EStateM.run (if ds.length = a.rotors.length then _ else _) a = _
    by_cases hlen : ds.length = a.rotors.length
    · simp only [takeDuties, if_pos hlen]
      cases hdirect : a.config.directDuties <;> rfl
    · simp only [takeDuties, if_neg hlen]
      rfl

theorem flyInPlace_run (a : Aircraft α) (ctx : TickContext) (input : AircraftInput α) :
    (flyInPlace ctx input).run a = .ok (a.fly ctx input).2 (a.fly ctx input).1 := rfl

/-- Every fault comes before any change. -/
theorem runInPlace_run (a : Aircraft α) (ctx : TickContext) (input : AircraftInput α) :
    (runInPlace ctx input).run a =
      match a.run ctx input with
      | .ok (a', events) => .ok events a'
      | .error f => .error f a := by
  rw [runInPlace, EStateM.run_bind, takeDutiesInPlace_run, run]
  cases a.takeDuties input.duties with
  | error f => rfl
  | ok ready => exact flyInPlace_run ready ctx input

theorem run_eq_error_iff {a : Aircraft α} {ctx : TickContext} {input : AircraftInput α}
    {f : Fault α} : a.run ctx input = .error f ↔
      ∃ ds, input.duties = some ds ∧ ds.length ≠ a.rotors.length ∧
        f = .dutyCount a.rotors.length ds.length := by
  unfold run takeDuties
  cases input.duties with
  | none => simp [Except.map]
  | some ds =>
    by_cases hlen : ds.length = a.rotors.length
    · simp [hlen, Except.map]
    · simp only [if_neg hlen, Except.map, Except.error.injEq, Option.some.injEq]
      exact ⟨fun hf => ⟨ds, rfl, hlen, hf.symm⟩, fun ⟨es, hes, _, hf⟩ => by rw [hf, hes]⟩

/-! ## Any history of an aircraft that was built -/

/-- The books of an aircraft of a configuration that ran with the inputs of a log. -/
structure Books (c : Configuration α) (inputs : List (AircraftInput α)) (a : Aircraft α) : Prop where
  ticks : a.ticks.toNat = inputs.length % 2 ^ 64
  time : a.time.toNat = inputs.length * c.timeStepMicros.toNat % 2 ^ 64
  lastInput : a.lastInput? = inputs.head?.elim (.error .notYetRun) .ok
  /-- A word counts fewer than `2 ^ 64` ticks. -/
  notYetRun : inputs.length < 2 ^ 64 → (a.lastInput? = .error .notYetRun ↔ a.ticks = 0)
  reading (kind : InstrumentKind) : (∃ f, (a.read? kind).1 = .error f) ↔ a.ticks = 0
  duties : a.duties.length = c.rotorCount.toNat
  rotors : a.rotors.length = c.rotorCount.toNat
  mounts : a.propulsion.mounts.length = c.rotorCount.toNat
  mixer : a.autopilot.mixer.rotorCount = c.rotorCount.toNat

theorem Counts.books {c : Configuration α} {r : Randomness α} {a : Aircraft α}
    {inputs : List (AircraftInput α)} (h : a.Counts inputs) (hb : a.BuiltFrom c r)
    (ha : a.Aligned) : a.Books c inputs where
  ticks := by rw [h.ticks, UInt64.toNat_ofNat']
  time := by rw [h.toNat_time, hb.dtMicros]
  lastInput := by
    rw [lastInput?, h.lastInput]
    cases inputs <;> rfl
  notYetRun hlt := by
    rw [h.ticks_eq_zero_iff hlt, lastInput?, h.lastInput]
    cases inputs <;> simp
  reading kind := by
    unfold read?
    split_ifs with hticks <;> simp [hticks]
  duties := ha.duties.trans hb.length_rotors
  rotors := hb.length_rotors
  mounts := ha.mounts.trans hb.length_rotors
  mixer := ha.mixer.trans hb.length_rotors

theorem exists_turns_run {c : Configuration α} {r : Randomness α} {a a' : Aircraft α}
    {ctx : TickContext} {input : AircraftInput α} {events : List (Event α)}
    (hb : a.BuiltFrom c r) (ha : a.Aligned) (h : a.run ctx input = .ok (a', events)) :
    ∃ (rotor : Fin c.rotorCount.toNat → Rotor α) (duty : Fin c.rotorCount.toNat → α)
      (mount : Fin c.rotorCount.toNat → Mount α),
      a.rotors = List.ofFn rotor ∧ a.dutiesFor input = List.ofFn duty ∧
        c.mounts = List.ofFn mount ∧
        a'.Turns c.rotor rotor duty mount (a.bladePressure ctx input) := by
  obtain ⟨ready, ht, rfl, -⟩ := run_cases h
  have hready := (aligned_takeDuties ha ht).duties
  obtain rfl := takeDuties_eq_ok ht
  have hmounts : a.propulsion.mounts = c.mounts := congrArg (·.mounts) hb.propulsion
  have hconstants : a.propulsion.constants = c.rotor := congrArg (·.constants) hb.propulsion
  obtain ⟨rotor, hrotor⟩ := exists_eq_ofFn hb.length_rotors
  obtain ⟨duty, hduty⟩ := exists_eq_ofFn (hready.trans hb.length_rotors)
  obtain ⟨mount, hmount⟩ := exists_eq_ofFn (ha.mounts.trans hb.length_rotors)
  refine ⟨rotor, duty, mount, hrotor, hduty, hmounts.symm.trans hmount, ?_⟩
  rw [← hconstants]
  exact turns_fly (a := { a with duties := a.dutiesFor input }) hrotor hduty hmount ctx input

/-- Whatever was done to an aircraft since it was built, its counters are those of the ticks that ran
since it was last reset, and its lists have one entry for each rotor.  A tick is refused exactly for
a wrong number of duties and is then left before anything was changed; in any other each rotor turns
at its duty and adds to the thrust and the torque. -/
theorem books_after_and_refused_iff {c : Configuration α} {r : Randomness α} {built : Aircraft α}
    {events : List (Event α)} (h : build c r = .ok (built, events)) (ops : List (Operation α)) :
    let a := built.after ops
    let n := c.rotorCount.toNat
    a.Books c (ops.foldl (Operation.log n) []) ∧
    (∀ ctx input f, a.run ctx input = .error f ↔
      ∃ ds, input.duties = some ds ∧ ds.length ≠ n ∧ f = .dutyCount n ds.length) ∧
    (∀ ctx input f a', (runInPlace ctx input).run a = .error f a' → a' = a) ∧
    ∀ ctx input a' events, a.run ctx input = .ok (a', events) →
      ∃ (rotor : Fin n → Rotor α) (duty : Fin n → α) (mount : Fin n → Mount α),
        a.rotors = List.ofFn rotor ∧ a.dutiesFor input = List.ofFn duty ∧
          c.mounts = List.ofFn mount ∧
          a'.Turns c.rotor rotor duty mount (a.bladePressure ctx input) := by
  intro a n
  have hasm := assembly_of_build h
  have ha : a.Aligned := aligned_after hasm.aligned ops
  have hb : a.BuiltFrom c r := (builtFrom_of_build h).after hasm.aligned ops
  have hcounts : a.Counts (ops.foldl (Operation.log n) []) := by
    have hcounts := counts_after hasm.aligned hasm.counts ops
    rwa [hasm.rotorCount] at hcounts
  refine ⟨hcounts.books hb ha, fun ctx input f => ?_, fun ctx input f a' hrun => ?_,
    fun ctx input a' events => exists_turns_run hb ha⟩
  · rw [run_eq_error_iff, hb.length_rotors]
  · rw [runInPlace_run] at hrun
    cases hr : a.run ctx input with
    | ok r => simp [hr] at hrun
    | error g =>
      rw [hr] at hrun
      exact (EStateM.Result.error.inj hrun).2.symm

/-- Of five ticks of the standard aircraft one is refused and two ran before the reset. -/
theorem books_after_and_refused_iff_standard :
    let ctx : TickContext := { time := 0, useWeather := false, trace := false }
    let tick : Operation ℝ := .run ctx .none
    let refused : AircraftInput ℝ := { (.none : AircraftInput ℝ) with duties := some [0.5] }
    let r : Randomness ℝ := .boxMuller fun _ _ => 0
    ∃ a events, build (Configuration.standard : Configuration ℝ) r = .ok (a, events) ∧
      let a := a.after [tick, tick, .reset, tick, .run ctx refused, tick]
      a.ticks.toNat = 2 ∧ a.lastInput? = .ok .none ∧ a.duties.length = 4 ∧
        a.run ctx refused = .error (.dutyCount 4 1) := by
  intro ctx tick refused r
  obtain ⟨⟨a, events⟩, h⟩ :=
    exists_build_standard (p := Configuration.standard.instruments) rfl none r
  obtain ⟨books, hrefused, -⟩ :=
    books_after_and_refused_iff h [tick, tick, .reset, tick, .run ctx refused, tick]
  exact ⟨a, events, h, books.ticks, books.lastInput, books.duties,
    (hrefused ctx refused _).2 ⟨[0.5], rfl, by decide, rfl⟩⟩

end Aircraft

end Multirotor
