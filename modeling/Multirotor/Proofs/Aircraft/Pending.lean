import Multirotor.Proofs.Aircraft.Buildable

/-!
# The queued collision

A collision waits in the body for the next tick.  A tick that runs takes it, whatever it makes of
it; a refused tick leaves it; another collision or a reset discards it unread
(`Operation.discards`).  So a collision that is discarded before the next tick leaves no trace:
`Operation.effective` drops these from a sequence of operations and `after_effective` says that the
aircraft after it is the same.  `impacts_history_le` counts the collisions that were applied: there
are no more of them than were queued for good.
-/

namespace Multirotor

variable {α : Type}

/-! ## Which operations take, keep or discard a collision -/

/-- The duties are those of `n` rotors, if there are any. -/
def AircraftInput.Fits (input : AircraftInput α) (n : Nat) : Prop :=
  ∀ ds ∈ input.duties, ds.length = n

instance (input : AircraftInput α) (n : Nat) : Decidable (input.Fits n) :=
  inferInstanceAs (Decidable (∀ ds ∈ input.duties, ds.length = n))

namespace Operation

/-- A collision is queued. -/
def queues : Operation α → Bool
  | setCollision _ => true
  | body (.setCollision _) => true
  | _ => false

/-- A collision that was queued before is forgotten without a tick. -/
def discards : Operation α → Bool
  | setCollision _ => true
  | body (.setCollision _) => true
  | reset => true
  | body .reset => true
  | _ => false

/-- The body of an aircraft with `n` rotors runs for a tick. -/
def takes (n : Nat) : Operation α → Bool
  | run _ input => decide (input.Fits n)
  | body (.run _) => true
  | _ => false

theorem discards_of_queues {op : Operation α} (h : op.queues = true) : op.discards = true := by
  cases op with
  | setCollision c => rfl
  | body op =>
    cases op with
    | setCollision c => rfl
    | _ => cases h
  | _ => cases h

theorem discards_of_takes {op : Operation α} {n : Nat} (h : op.takes n = true) :
    op.discards = false := by
  cases op with
  | run ctx input => rfl
  | body op =>
    cases op with
    | run input => rfl
    | _ => cases h
  | _ => cases h

theorem queues_of_takes {op : Operation α} {n : Nat} (h : op.takes n = true) :
    op.queues = false :=
  Bool.eq_false_iff.2 fun hq =>
    Bool.false_ne_true ((discards_of_takes h).symm.trans (discards_of_queues hq))

/-- A collision queued before the operations is forgotten before the next tick that runs. -/
def superseded (n : Nat) : List (Operation α) → Bool
  | [] => false
  | op :: ops => op.discards || (!op.takes n && superseded n ops)

/-- The operations without the collisions that are forgotten before the next tick that runs. -/
def effective (n : Nat) : List (Operation α) → List (Operation α)
  | [] => []
  | op :: ops => if op.queues && superseded n ops then effective n ops else op :: effective n ops

end Operation

/-! ## The slot of the body -/

/-- The body with another collision queued, or none. -/
def RigidBody.withPending (b : RigidBody α) (p : Option (Collision α)) : RigidBody α :=
  { b with pending := p }

/-- The aircraft with another collision queued, or none. -/
def Aircraft.withPending (a : Aircraft α) (p : Option (Collision α)) : Aircraft α :=
  { a with body := a.body.withPending p }

@[simp] theorem Aircraft.withPending_self (a : Aircraft α) : a.withPending a.body.pending = a := rfl

@[simp] theorem Aircraft.withPending_withPending (a : Aircraft α) (p q : Option (Collision α)) :
    (a.withPending p).withPending q = a.withPending q := rfl

variable [Scalar α]

namespace RigidBody

theorem pending_held (b : RigidBody α) : b.held.pending = b.pending := by
  unfold held holdAboveGround
  dsimp only
  split_ifs <;> rfl

theorem pending_hit (b : RigidBody α) (collision : Option (Collision α)) :
    (b.hit collision).1.pending = b.pending := by
  obtain ⟨v, w, h⟩ := b.exists_hit_eq collision
  rw [h]

theorem pending_confined (b : RigidBody α) : b.confined.1.pending = b.pending := by
  obtain h | ⟨bounds, -, h⟩ := b.confined_cases
  · rw [h]
  · rw [h]
    rfl

/-- A tick takes the queued collision, whether an operator places the body or not. -/
theorem pending_run (b : RigidBody α) (input : BodyInput α) : (b.run input).1.pending = none := by
  cases h : b.placement input with
  | some pose => rw [run_of_placement h]; rfl
  | none =>
    rw [run_of_free h, pending_confined, pending_hit, pending_held]
    rfl

theorem forceRestore_withPending (b : RigidBody α) (p : Option (Collision α)) :
    (b.withPending p).forceRestore = b.forceRestore.withPending p := by
  unfold forceRestore
  cases h : b.options.bounds with
  | none => simp only [withPending, h]
  | some bounds => simp only [withPending, h]; rfl

end RigidBody

/-! ## What an operation does to the slot -/

namespace Aircraft

variable {a : Aircraft α} {op : Operation α}

/-- A tick is run exactly when its duties fit the rotors. -/
theorem exists_run_iff (ctx : TickContext) {input : AircraftInput α} :
    (∃ r, a.run ctx input = .ok r) ↔ input.Fits a.rotors.length := by
  unfold run takeDuties AircraftInput.Fits
  cases input.duties with
  | none => simp [Except.map]
  | some ds => by_cases h : ds.length = a.rotors.length <;> simp [h, Except.map]

omit [Scalar α] in
/-- An aircraft with an autopilot has no use for duties that it is given. -/
theorem takeDuties_of_fits {input : AircraftInput α} (hdirect : a.config.directDuties = false)
    (h : input.Fits a.rotors.length) : a.takeDuties input.duties = .ok a := by
  unfold takeDuties
  cases hd : input.duties with
  | none => rfl
  | some ds => simp [h ds hd, hdirect]

theorem perform_of_fits (ctx : TickContext) {input : AircraftInput α}
    (hdirect : a.config.directDuties = false) (h : input.Fits a.rotors.length) :
    a.perform (.run ctx input) =
      { aircraft := (a.fly ctx input).1, events := (a.fly ctx input).2, fault := none } := by
  simp only [perform, run, takeDuties_of_fits hdirect h, Except.map]

theorem run_of_not_fits (ctx : TickContext) {input : AircraftInput α}
    (h : ¬ input.Fits a.rotors.length) :
    ∃ given, a.run ctx input = .error (.dutyCount a.rotors.length given) := by
  unfold run takeDuties
  cases hd : input.duties with
  | none => exact absurd (fun ds hds => by simp [hd] at hds) h
  | some ds =>
    have hlen : ds.length ≠ a.rotors.length := fun hlen => h fun es hes => by
      obtain rfl : ds = es := by simpa [hd] using hes
      exact hlen
    exact ⟨ds.length, by simp only [if_neg hlen, Except.map]⟩

theorem perform_of_not_fits {ctx : TickContext} {input : AircraftInput α}
    (h : ¬ input.Fits a.rotors.length) : (a.perform (.run ctx input)).aircraft = a := by
  obtain ⟨given, hr⟩ := run_of_not_fits ctx h
  simp only [perform, hr]

theorem pending_of_run {ctx : TickContext} {input : AircraftInput α} {a' : Aircraft α}
    {events : List (Event α)} (h : a.run ctx input = .ok (a', events)) :
    a'.body.pending = none := by
  obtain ⟨ready, -, rfl, -⟩ := run_cases h
  rw [fly_fst]
  exact RigidBody.pending_run _ _

/-- Whoever queues a collision changes nothing else. -/
theorem perform_of_queues (h : op.queues = true) :
    ∃ c, (a.perform op).aircraft = a.withPending (some c) := by
  cases op with
  | run ctx input => cases h
  | setCollision c => exact ⟨c, rfl⟩
  | body op =>
    cases op with
    | setCollision c => exact ⟨c, rfl⟩
    | _ => cases h
  | reset => cases h

theorem perform_withPending_of_discards (h : op.discards = true) (p : Option (Collision α)) :
    ((a.withPending p).perform op).aircraft = (a.perform op).aircraft := by
  cases op with
  | run ctx input => cases h
  | setCollision c => rfl
  | body op =>
    cases op with
    | setCollision c => rfl
    | reset => rfl
    | _ => cases h
  | reset => rfl

theorem perform_withPending_of_keeps (hd : op.discards = false)
    (ht : op.takes a.rotors.length = false) (p : Option (Collision α)) :
    ((a.withPending p).perform op).aircraft = (a.perform op).aircraft.withPending p := by
  cases op with
  | run ctx input =>
    have hfits : ¬ input.Fits a.rotors.length := of_decide_eq_false ht
    rw [perform_of_not_fits hfits]
    exact perform_of_not_fits hfits
  | setCollision c => cases hd
  | body op =>
    cases op with
    | setCollision c => cases hd
    | run input => cases ht
    | reset => cases hd
    | forceRestore =>
      exact congrArg (fun b => { a with body := b }) (a.body.forceRestore_withPending p)
    | _ => rfl
  | reset => cases hd

/-! ## Sequences of operations -/

/-- What is forgotten before the next tick does not matter. -/
theorem after_withPending (ha : a.Aligned) {ops : List (Operation α)}
    (h : Operation.superseded a.rotors.length ops = true) (p : Option (Collision α)) :
    (a.withPending p).after ops = a.after ops := by
  induction ops generalizing a with
  | nil => cases h
  | cons op ops ih =>
    rw [after_cons, after_cons]
    cases hd : op.discards with
    | true => rw [perform_withPending_of_discards hd]
    | false =>
      simp only [Operation.superseded, hd, Bool.false_or, Bool.and_eq_true,
        Bool.not_eq_true'] at h
      obtain ⟨ht, h⟩ := h
      rw [perform_withPending_of_keeps hd ht]
      rw [← length_rotors_perform ha op] at h
      exact ih (aligned_perform ha op) h

/-- Collisions that are forgotten before the next tick leave no trace. -/
theorem after_effective (ha : a.Aligned) (ops : List (Operation α)) :
    a.after (Operation.effective a.rotors.length ops) = a.after ops := by
  induction ops generalizing a with
  | nil => rfl
  | cons op ops ih =>
    rw [Operation.effective]
    split_ifs with h
    · obtain ⟨hq, hs⟩ := Bool.and_eq_true_iff.1 h
      obtain ⟨c, hc⟩ := perform_of_queues (a := a) hq
      rw [ih ha, after_cons, hc, after_withPending ha hs]
    · rw [after_cons, after_cons, ← ih (aligned_perform ha op), length_rotors_perform ha]

end Aircraft

/-! ## Counting the collisions that were applied -/

/-- A collision was applied, or nothing could be made of it. -/
def BodyEvent.isImpact {α : Type} : BodyEvent α → Bool
  | contactAtCenter => true
  | contactWithoutNormal => true
  | reflected _ => true
  | struck _ => true
  | collisionReplaced => false
  | restored _ => false

/-- A collision was applied to the body. -/
def Event.isImpact {α : Type} : Event α → Bool
  | body e => e.isImpact
  | _ => false

/-- The number of collisions that were applied. -/
def impacts {α : Type} (rs : List (Run α)) : Nat := (rs.flatMap (·.events)).countP Event.isImpact

/-- The number of collisions that are queued. -/
def Aircraft.waiting {α : Type} (a : Aircraft α) : Nat := if a.body.pending.isSome then 1 else 0

omit [Scalar α] in
theorem impacts_cons (r : Run α) (rs : List (Run α)) :
    impacts (r :: rs) = r.events.countP Event.isImpact + impacts rs := by
  rw [impacts, List.flatMap_cons, List.countP_append, impacts]

omit [Scalar α] in
theorem countP_map_body (es : List (BodyEvent α)) :
    (es.map Event.body).countP Event.isImpact = es.countP BodyEvent.isImpact :=
  List.countP_map

namespace RigidBody

theorem countP_hit (b : RigidBody α) (collision : Option (Collision α)) :
    (b.hit collision).2.countP BodyEvent.isImpact ≤ if collision.isSome then 1 else 0 := by
  cases collision with
  | none => exact le_rfl
  | some c =>
    change _ ≤ 1
    unfold hit
    dsimp only
    split_ifs
    · cases c with
      | bounce c =>
        simp only [collide, bounce]
        split <;> exact le_rfl
      | strike s =>
        simp only [collide, strike]
        split <;> exact le_rfl
    · exact Nat.zero_le 1

theorem countP_confined (b : RigidBody α) : b.confined.2.countP BodyEvent.isImpact = 0 := by
  unfold confined confine
  split
  · split <;> rfl
  · rfl

theorem countP_run (b : RigidBody α) (input : BodyInput α) :
    (b.run input).2.countP BodyEvent.isImpact ≤ if b.pending.isSome then 1 else 0 := by
  cases h : b.placement input with
  | some pose =>
    unfold placement at h
    simp only [run, h]
    exact Nat.zero_le _
  | none =>
    have hevents : (b.run input).2 = (((b.released.integrate input).held).hit b.pending).2 ++
        (((b.released.integrate input).held).hit b.pending).1.confined.2 := by
      unfold placement at h
      simp only [run, h]
      rfl
    rw [hevents, List.countP_append, countP_confined]
    exact countP_hit _ _

end RigidBody

namespace Aircraft

variable {a : Aircraft α} {op : Operation α}

theorem countP_fly (a : Aircraft α) (ctx : TickContext) (input : AircraftInput α) :
    (a.fly ctx input).2.countP Event.isImpact ≤ a.waiting := by
  have hbody := RigidBody.countP_run a.body (a.bodyInput ctx input)
  rw [fly_snd, List.countP_append, List.countP_append, countP_map_body]
  split_ifs <;> exact hbody

theorem countP_perform (op : Operation α) : (a.perform op).events.countP Event.isImpact ≤
    if op.takes a.rotors.length then a.waiting else 0 := by
  cases op with
  | run ctx input =>
    simp only [perform]
    split
    · next a' events hr =>
      obtain ⟨ready, ht, -, rfl⟩ := run_cases hr
      have hfits : input.Fits a.rotors.length := (exists_run_iff ctx).1 ⟨_, hr⟩
      have hwaiting : ready.waiting = a.waiting := by
        obtain rfl | ⟨ds, -, -, rfl⟩ := takeDuties_cases ht <;> rfl
      rw [Operation.takes, decide_eq_true hfits, if_pos rfl, ← hwaiting]
      exact countP_fly ready ctx input
    · exact Nat.zero_le _
  | setCollision c =>
    simp only [perform, setCollision, RigidBody.setCollision]
    split <;> exact le_rfl
  | body op =>
    simp only [perform, countP_map_body]
    cases op with
    | run input => exact RigidBody.countP_run a.body input
    | setCollision c =>
      simp only [RigidBody.perform, RigidBody.setCollision]
      split <;> exact le_rfl
    | _ => exact le_rfl
  | reset => exact le_rfl

/-- A tick leaves no collision behind, and neither does a reset. -/
theorem waiting_perform_eq_zero (hq : op.queues = false)
    (h : op.takes a.rotors.length = true ∨ op.discards = true) :
    (a.perform op).aircraft.waiting = 0 := by
  have hnone : (a.perform op).aircraft.body.pending = none := by
    cases op with
    | run ctx input =>
      have hfits : input.Fits a.rotors.length := by
        simpa [Operation.takes, Operation.discards] using h
      obtain ⟨⟨a', events⟩, hr⟩ := (exists_run_iff ctx).2 hfits
      simp only [perform, hr]
      exact pending_of_run hr
    | setCollision c => cases hq
    | body op =>
      cases op with
      | run input => exact RigidBody.pending_run _ _
      | reset => rfl
      | setCollision c => cases hq
      | _ => simp [Operation.takes, Operation.discards] at h
    | reset => rfl
  rw [waiting, hnone]
  rfl

theorem waiting_perform_of_keeps (hd : op.discards = false)
    (ht : op.takes a.rotors.length = false) : (a.perform op).aircraft.waiting = a.waiting := by
  have hkeep := perform_withPending_of_keeps hd ht a.body.pending
  rw [withPending_self] at hkeep
  rw [hkeep]
  rfl

omit [Scalar α] in
theorem waiting_le_one (a : Aircraft α) : a.waiting ≤ 1 := by
  unfold waiting
  split_ifs <;> omega

/-- No more collisions are applied than were queued for good. -/
theorem impacts_history_le (ha : a.Aligned) (ops : List (Operation α)) :
    impacts (a.history ops) ≤ (Operation.effective a.rotors.length ops).countP Operation.queues +
      if Operation.superseded a.rotors.length ops then 0 else a.waiting := by
  induction ops generalizing a with
  | nil => exact Nat.zero_le _
  | cons op ops ih =>
    have ih := ih (aligned_perform ha op)
    have hop := countP_perform (a := a) op
    rw [length_rotors_perform ha] at ih
    rw [history, impacts_cons, Operation.superseded, Operation.effective]
    cases ht : op.takes a.rotors.length with
    | true =>
      have hq := Operation.queues_of_takes ht
      rw [waiting_perform_eq_zero hq (.inl ht), ite_self] at ih
      rw [ht, if_pos rfl] at hop
      simp [Operation.discards_of_takes ht, hq]
      omega
    | false =>
      rw [ht, if_neg Bool.false_ne_true] at hop
      cases hd : op.discards with
      | false =>
        have hq : op.queues = false := by
          by_contra hq
          simp [Operation.discards_of_queues (Bool.eq_true_of_not_eq_false hq)] at hd
        rw [waiting_perform_of_keeps hd ht] at ih
        simp [hq]
        omega
      | true =>
        cases hq : op.queues with
        | false =>
          rw [waiting_perform_eq_zero hq (.inr hd), ite_self] at ih
          simp [hq]
          omega
        | true =>
          have hone := waiting_le_one (a.perform op).aircraft
          cases hs : Operation.superseded a.rotors.length ops <;> simp [hs, hq] at ih ⊢ <;> omega

/-! ## Any history of an aircraft that was built -/

/-- Collisions that are replaced or discarded before the next tick that runs can be left out, no
more are applied than the others, a tick that runs leaves none behind, a refused one keeps the one
that is queued, and of the one that was queued a tick passes nothing on but the aircraft it
leaves. -/
theorem collision_applied_once {c : Configuration α} {r : Randomness α} {built : Aircraft α}
    {events : List (Event α)} (h : build c r = .ok (built, events))
    (before : List (Operation α)) :
    let a := built.after before
    let n := c.rotorCount.toNat
    (∀ ops, a.after (Operation.effective n ops) = a.after ops) ∧
    (∀ ops, impacts (a.history ops) ≤ (Operation.effective n ops).countP Operation.queues +
      if Operation.superseded n ops then 0 else a.waiting) ∧
    (∀ ctx input, input.Fits n →
      ∃ x xs, a.run ctx input = .ok (x, xs) ∧ x.body.pending = none) ∧
    (∀ ctx input, ¬ input.Fits n → (a.perform (.run ctx input)).aircraft = a ∧
      ∃ given, (a.perform (.run ctx input)).fault = some (.dutyCount n given)) ∧
    ∀ p q ctx input x xs y ys, (a.withPending p).run ctx input = .ok (x, xs) →
      (a.withPending q).run ctx input = .ok (y, ys) → x.withPending none = y.withPending none →
      ∀ later, x.history later = y.history later := by
  intro a n
  have hasm := assembly_of_build h
  have ha : a.Aligned := aligned_after hasm.aligned before
  have hn : a.rotors.length = n := (length_rotors_after hasm.aligned before).trans hasm.rotorCount
  rw [← hn]
  refine ⟨after_effective ha, impacts_history_le ha, fun ctx input hfits => ?_,
    fun ctx input hfits => ?_, fun p q ctx input x xs y ys hx hy hxy later => ?_⟩
  · obtain ⟨⟨x, xs⟩, hr⟩ := (exists_run_iff ctx).2 hfits
    exact ⟨x, xs, hr, pending_of_run hr⟩
  · obtain ⟨given, hr⟩ := run_of_not_fits ctx hfits
    exact ⟨perform_of_not_fits hfits, given, by simp only [perform, hr]⟩
  · have hsame : x = y :=
      calc x = x.withPending none := by rw [← pending_of_run hx, withPending_self]
        _ = y.withPending none := hxy
        _ = y := by rw [← pending_of_run hy, withPending_self]
    rw [hsame]

/-- Of four collisions the standard aircraft suffers at most the last: the first is replaced after a
refused tick, the second discarded by a reset, and the third replaced by the fourth. -/
theorem collision_applied_once_standard :
    let tick : Operation ℝ := .run { time := 0, useWeather := false, trace := false } .none
    let refused : Operation ℝ :=
      .run { time := 0, useWeather := false, trace := false } { (.none : AircraftInput ℝ) with
        duties := some [0.5, 0.5, 0.5] }
    let bounce (x : ℝ) : Operation ℝ := .setCollision (.bounce
      { contact := ⟨x, 0, 0⟩, relativeVelocity := ⟨0, 0, 1⟩, restitution := 0.5 })
    let r : Randomness ℝ := .boxMuller fun _ _ => 0
    ∃ a events, build (Configuration.standard : Configuration ℝ) r = .ok (a, events) ∧
      a.after [bounce 1, refused, bounce 2, .reset, bounce 3, bounce 4, refused, tick, tick] =
        a.after [refused, .reset, bounce 4, refused, tick, tick] ∧
      impacts (a.history
        [bounce 1, refused, bounce 2, .reset, bounce 3, bounce 4, refused, tick, tick]) ≤ 1 := by
  intro tick refused bounce r
  obtain ⟨⟨a, events⟩, h⟩ :=
    exists_build_standard (p := Configuration.standard.instruments) rfl none r
  obtain ⟨heffective, himpacts, -⟩ := collision_applied_once h []
  exact ⟨a, events, h, (heffective _).symm, himpacts _⟩

end Aircraft

end Multirotor
