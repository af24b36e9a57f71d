import Mathlib.Tactic.SplitIfs
import Multirotor.Pilot.Pid
import Multirotor.Proofs.Scalar.Binary64

/-!
# Histories of a loop

What is done to a feedback loop over time: updates, steps of its integral alone and resets, in any
order.  `Pid.after` is the loop after a sequence of them and `Pid.calls` lists what each of them
answers and leaves behind.

An update with a value that is NaN or infinite is told nothing (`PidOperation.isBlank`).  It answers
zero and the loop is as it was, so that a history is the same without such updates
(`Pid.calls_without_blanks`).
-/

namespace Multirotor

/-- What is done to a loop. -/
inductive PidOperation (α : Type) where
  | update (target measurement : α) (saturated : Bool)
  | integrate (saturated : Bool)
  | reset

/-- An operation with what came of it. -/
structure PidCall (α : Type) where
  operation : PidOperation α
  /-- The output of the loop; only updates have one. -/
  output : Option α
  /-- The loop afterwards. -/
  loop : Pid α

namespace Pid

variable {α : Type} [Scalar α]

/-- The output of the loop for an operation. -/
def answer? (p : Pid α) : PidOperation α → Option α
  | .update target measurement saturated => some (p.update target measurement saturated).1
  | .integrate _ => none
  | .reset => none

/-- The loop after an operation. -/
def perform (p : Pid α) : PidOperation α → Pid α
  | .update target measurement saturated => (p.update target measurement saturated).2
  | .integrate saturated => p.integrate saturated
  | .reset => p.reset

/-- The loop after a sequence of operations. -/
def after (p : Pid α) (ops : List (PidOperation α)) : Pid α := ops.foldl perform p

/-- A sequence of operations with what came of each. -/
def calls (p : Pid α) : List (PidOperation α) → List (PidCall α)
  | [] => []
  | op :: ops =>
    { operation := op, output := p.answer? op, loop := p.perform op } :: (p.perform op).calls ops

theorem after_concat (p : Pid α) (ops : List (PidOperation α)) (op : PidOperation α) :
    p.after (ops ++ [op]) = (p.after ops).perform op :=
  List.foldl_append

theorem settings_perform (p : Pid α) (op : PidOperation α) :
    (p.perform op).gains = p.gains ∧ (p.perform op).dt = p.dt := by
  cases op with
  | update target measurement saturated =>
    rw [perform, update]
    split_ifs <;> exact ⟨rfl, rfl⟩
  | integrate saturated => exact ⟨rfl, rfl⟩
  | reset => exact ⟨rfl, rfl⟩

theorem settings_after (p : Pid α) (ops : List (PidOperation α)) :
    (p.after ops).gains = p.gains ∧ (p.after ops).dt = p.dt := by
  induction ops generalizing p with
  | nil => exact ⟨rfl, rfl⟩
  | cons op ops ih =>
    obtain ⟨hgains, hdt⟩ := p.settings_perform op
    obtain ⟨hgains', hdt'⟩ := ih (p.perform op)
    exact ⟨hgains'.trans hgains, hdt'.trans hdt⟩

end Pid

/-! ## Updates that are told nothing -/

theorem Binary64.isFinite_eq (x : Float) : Scalar.isFinite x = !(x.isNaN || x.isInf) := by
  change x.toModel.unpack.isFinite = !(x.toModel.unpack.isNaN || x.toModel.unpack.isInf)
  cases x.toModel.unpack <;> rfl

namespace PidOperation

/-- An update with a value that is NaN or infinite. -/
def isBlank : PidOperation Float → Bool
  | .update target measurement _ =>
    target.isNaN || target.isInf || measurement.isNaN || measurement.isInf
  | .integrate _ => false
  | .reset => false

theorem isBlank_update (target measurement : Float) (saturated : Bool) :
    (update target measurement saturated).isBlank =
      (!Scalar.isFinite target || !Scalar.isFinite measurement) := by
  rw [Binary64.isFinite_eq, Binary64.isFinite_eq, Bool.not_not, Bool.not_not, ← Bool.or_assoc]
  rfl

end PidOperation

namespace Pid

variable (p : Pid Float)

theorem update_of_isBlank {target measurement : Float} {saturated : Bool}
    (h : (PidOperation.update target measurement saturated).isBlank = true) :
    p.update target measurement saturated = (0, p) := by
  rw [PidOperation.isBlank_update] at h
  rw [update, if_pos h]
  rfl

/-- An update that is told something keeps it. -/
theorem terms_update_of_not_isBlank {target measurement : Float} {saturated : Bool}
    (h : (PidOperation.update target measurement saturated).isBlank = false) :
    (p.update target measurement saturated).2.terms.target = target ∧
      (p.update target measurement saturated).2.terms.actual = measurement := by
  rw [PidOperation.isBlank_update] at h
  rw [update, if_neg (by rw [h]; exact Bool.false_ne_true)]
  exact ⟨rfl, rfl⟩

theorem perform_of_isBlank {op : PidOperation Float} (h : op.isBlank = true) :
    p.answer? op = some 0 ∧ p.perform op = p := by
  cases op with
  | update target measurement saturated =>
    rw [answer?, perform, p.update_of_isBlank h]
    exact ⟨rfl, rfl⟩
  | integrate saturated => cases h
  | reset => cases h

theorem after_filter (ops : List (PidOperation Float)) :
    p.after (ops.filter (!·.isBlank)) = p.after ops := by
  induction ops generalizing p with
  | nil => rfl
  | cons op ops ih =>
    cases h : op.isBlank with
    | true =>
      rw [List.filter_cons_of_neg (by rw [h]; decide), ih]
      change p.after ops = (p.perform op).after ops
      rw [(p.perform_of_isBlank h).2]
    | false =>
      rw [List.filter_cons_of_pos (by rw [h]; rfl)]
      exact ih (p.perform op)

theorem calls_filter (ops : List (PidOperation Float)) :
    p.calls (ops.filter (!·.isBlank)) = (p.calls ops).filter (!·.operation.isBlank) := by
  induction ops generalizing p with
  | nil => rfl
  | cons op ops ih =>
    cases h : op.isBlank with
    | true =>
      rw [calls, List.filter_cons_of_neg (by rw [h]; decide),
        List.filter_cons_of_neg (by rw [h]; decide), (p.perform_of_isBlank h).2, ih]
    | false =>
      rw [calls, List.filter_cons_of_pos (by rw [h]; rfl),
        List.filter_cons_of_pos (by rw [h]; rfl), calls, ih]

/-- An update with a value that is NaN or infinite answers zero and leaves every part of the loop as
it is, and any other is told its values.  So without the former, a history has the same answers, the
same loop after each of the other operations and the same loop in the end. -/
theorem calls_without_blanks (ops : List (PidOperation Float)) :
    (∀ op : PidOperation Float, op.isBlank = true → p.answer? op = some 0 ∧ p.perform op = p) ∧
    (∀ target measurement saturated,
      (PidOperation.update target measurement saturated).isBlank = false →
        (p.perform (.update target measurement saturated)).terms.target = target ∧
        (p.perform (.update target measurement saturated)).terms.actual = measurement) ∧
    p.calls (ops.filter (!·.isBlank)) = (p.calls ops).filter (!·.operation.isBlank) ∧
    p.after (ops.filter (!·.isBlank)) = p.after ops := by
  refine ⟨fun _ h => p.perform_of_isBlank h, ?_, p.calls_filter ops, p.after_filter ops⟩
  intro target measurement saturated h
  exact p.terms_update_of_not_isBlank h

/-- NaN as the first thing that a loop is told after a reset, and infinity later. -/
theorem calls_without_blanks_glitches :
    let p : Pid Float := (start .standard 0.01).reset
    let blank : PidOperation Float := .update Binary64.nan 0 true
    blank.isBlank = true ∧ p.answer? blank = some 0 ∧ p.perform blank = p ∧
      p.after [.update 1 0.25 false, .integrate true] =
        p.after [blank, .update 1 0.25 false, .update 1 Binary64.infinity false, .integrate true] ∧
      (PidOperation.update 1 0.25 false).isBlank = false ∧
      (p.perform (.update 1 0.25 false)).terms.actual = 0.25 := by
  intro p blank
  obtain ⟨hblank, htold, -, hafter⟩ := p.calls_without_blanks
    [blank, .update 1 0.25 false, .update 1 Binary64.infinity false, .integrate true]
  have hnan : blank.isBlank = true := by decide +kernel
  have hnumbers : (PidOperation.update (1 : Float) 0.25 false).isBlank = false := by
    decide +kernel
  exact ⟨hnan, (hblank blank hnan).1, (hblank blank hnan).2, hafter, hnumbers,
    (htold 1 0.25 false hnumbers).2⟩

end Pid

end Multirotor
