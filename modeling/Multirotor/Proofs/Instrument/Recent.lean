import Mathlib.Algebra.Order.BigOperators.Group.List
import Mathlib.Data.List.DropRight
import Mathlib.Data.List.MinMax
import Multirotor.Proofs.Instrument.Constant

/-!
# The most recent samples

A window compares its size with its capacity for equality when a sample is added, so that it would
never drop one again if it ever held more than it has room for.  It never does: whatever is done to
it, no more samples are left than the capacity allows (`SampleWindow.IsBounded`), and then every
operation keeps exactly the last of the samples that there are (`perform_eq`).
`SampleWindow.keeps_most_recent` has the whole history, and that the mean is one of the kept samples
alone.

An instrument does not resize its windows.  What it recalls are then the last of the samples since
its reset, as many as there is room for (`SampleWindow.Recalls`).
-/

namespace Multirotor

variable {α : Type}

/-! ## The end of a list -/

theorem length_rtake (xs : List α) (n : ℕ) : (xs.rtake n).length = min n xs.length := by
  rw [List.rtake, List.length_drop]
  omega

theorem rtake_ne_nil {xs : List α} {n : ℕ} (hn : 1 ≤ n) (h : xs ≠ []) : xs.rtake n ≠ [] := by
  rw [← List.length_pos_iff_ne_nil, length_rtake]
  exact lt_min hn (List.length_pos_of_ne_nil h)

theorem rtake_map {β : Type} (f : α → β) (xs : List α) (n : ℕ) :
    (xs.map f).rtake n = (xs.rtake n).map f := by
  rw [List.rtake, List.rtake, List.length_map, List.map_drop]

/-- What was dropped before is not missed among the last. -/
theorem rtake_append_rtake (xs ys : List α) (n : ℕ) :
    (xs.rtake n ++ ys).rtake n = (xs ++ ys).rtake n := by
  have hdrop : xs.rtake n ++ ys = (xs ++ ys).drop (xs.length - n) := by
    rw [List.rtake, List.drop_append_of_le_length (Nat.sub_le _ _)]
  rw [hdrop, List.rtake, List.rtake, List.drop_drop, List.length_drop, List.length_append]
  congr 1
  omega

/-! ## Histories of a window -/

/-- What is done to a window. -/
inductive WindowOperation (α : Type) where
  | add (x : α)
  | resize (capacity : ℕ)
  | reset

/-- The samples that were added, in order. -/
def WindowOperation.added (ops : List (WindowOperation α)) : List α :=
  ops.filterMap fun
    | .add x => some x
    | _ => none

namespace SampleWindow

/-- The window after an operation. -/
def perform (w : SampleWindow α) : WindowOperation α → SampleWindow α
  | .add x => w.add x
  | .resize capacity => w.resize capacity
  | .reset => w.reset

/-- The window after a history. -/
def after (w : SampleWindow α) (ops : List (WindowOperation α)) : SampleWindow α :=
  ops.foldl perform w

/-- The last of the samples that there are after an operation, as many as there is room for. -/
def keepRecent (w : SampleWindow α) : WindowOperation α → SampleWindow α
  | .add x => { w with samples := (w.samples ++ [x]).rtake w.capacity }
  | .resize capacity =>
    { capacity := max capacity 1, samples := w.samples.rtake (max capacity 1) }
  | .reset => { w with samples := [] }

/-- There is room for a sample, and there are no more than there is room for. -/
structure IsBounded (w : SampleWindow α) : Prop where
  one_le : 1 ≤ w.capacity
  size_le : w.size ≤ w.capacity

variable {w : SampleWindow α}

theorem isBounded_empty (n : ℕ) : (empty n : SampleWindow α).IsBounded :=
  ⟨le_max_right n 1, Nat.zero_le _⟩

/-- The last of the samples are never too many. -/
theorem isBounded_keepRecent (h : 1 ≤ w.capacity) (op : WindowOperation α) :
    (w.keepRecent op).IsBounded := by
  cases op with
  | add x => exact ⟨h, (length_rtake _ _).trans_le (min_le_left _ _)⟩
  | resize n => exact ⟨le_max_right n 1, (length_rtake _ _).trans_le (min_le_left _ _)⟩
  | reset => exact ⟨h, Nat.zero_le _⟩

/-- Dropping one sample from a full window makes room for another. -/
theorem IsBounded.add_eq (h : w.IsBounded) (x : α) : w.add x = w.keepRecent (.add x) := by
  have hone := h.one_le
  have hsize : w.samples.length ≤ w.capacity := h.size_le
  unfold add keepRecent
  dsimp only
  rw [List.rtake, List.length_append, List.length_singleton]
  split_ifs with hfull
  · have hdropped : w.samples.length + 1 - w.capacity = 1 := by omega
    rw [hdropped, List.drop_append_of_le_length (by omega)]
  · have hdropped : w.samples.length + 1 - w.capacity = 0 := by omega
    rw [hdropped, List.drop_zero]

theorem IsBounded.perform_eq (h : w.IsBounded) (op : WindowOperation α) :
    w.perform op = w.keepRecent op := by
  cases op with
  | add x => exact h.add_eq x
  | resize n => rfl
  | reset => rfl

theorem IsBounded.perform (h : w.IsBounded) (op : WindowOperation α) : (w.perform op).IsBounded :=
  h.perform_eq op ▸ isBounded_keepRecent h.one_le op

theorem IsBounded.after (h : w.IsBounded) (ops : List (WindowOperation α)) :
    (w.after ops).IsBounded := by
  induction ops generalizing w with
  | nil => exact h
  | cons op ops ih => exact ih (h.perform op)

theorem IsBounded.after_eq (h : w.IsBounded) (ops : List (WindowOperation α)) :
    w.after ops = ops.foldl keepRecent w := by
  induction ops generalizing w with
  | nil => rfl
  | cons op ops ih =>
    rw [List.foldl_cons, ← h.perform_eq op]
    exact ih (h.perform op)

/-- An operation leaves nothing that was not in the window or added by it. -/
theorem samples_perform_suffix (w : SampleWindow α) (op : WindowOperation α) :
    (w.perform op).samples <:+ w.samples ++ WindowOperation.added [op] := by
  cases op with
  | add x =>
    unfold perform add
    dsimp only
    split_ifs
    · exact List.suffix_append_self_iff.2 (List.drop_suffix 1 w.samples)
    · exact List.suffix_rfl
  | resize n => exact (List.drop_suffix _ _).trans (by simp [WindowOperation.added])
  | reset => exact List.nil_suffix

/-- What was dropped does not come back. -/
theorem samples_after_suffix (w : SampleWindow α) (ops : List (WindowOperation α)) :
    (w.after ops).samples <:+ w.samples ++ WindowOperation.added ops := by
  induction ops generalizing w with
  | nil => exact (List.append_nil w.samples).symm ▸ List.suffix_rfl
  | cons op ops ih =>
    have hadded : WindowOperation.added (op :: ops) =
        WindowOperation.added [op] ++ WindowOperation.added ops :=
      @List.filterMap_append _ _ [op] ops _
    rw [hadded, ← List.append_assoc]
    exact (ih (w.perform op)).trans (List.suffix_append_self_iff.2 (samples_perform_suffix w op))

/-! ### Means -/

theorem mean_of_eq_nil {w : SampleWindow ℝ} (h : w.samples = []) : w.mean = 0 := by
  rw [mean, h]
  rfl

section Mean

variable {w : SampleWindow ℝ} (hne : w.samples ≠ [])

include hne

theorem size_pos : (0 : ℝ) < w.size :=
  Nat.cast_pos.2 (List.length_pos_of_ne_nil hne)

theorem le_mean {low : ℝ} (h : ∀ x ∈ w.samples, low ≤ x) : low ≤ w.mean := by
  rw [mean_of_ne_nil hne, le_div_iff₀ (size_pos hne), mul_comm, ← nsmul_eq_mul]
  exact List.card_nsmul_le_sum _ low h

theorem mean_le {high : ℝ} (h : ∀ x ∈ w.samples, x ≤ high) : w.mean ≤ high := by
  rw [mean_of_ne_nil hne, div_le_iff₀ (size_pos hne), mul_comm, ← nsmul_eq_mul]
  exact List.sum_le_card_nsmul _ high h

theorem minimum_le_mean : w.samples.minimum ≤ w.mean := by
  obtain ⟨low, hlow⟩ := WithTop.ne_top_iff_exists.1 (List.minimum_ne_top_of_ne_nil hne)
  rw [← hlow, WithTop.coe_le_coe]
  exact le_mean hne fun x hx => List.minimum_le_of_mem hx hlow.symm

theorem mean_le_maximum : w.mean ≤ w.samples.maximum := by
  obtain ⟨high, hhigh⟩ := WithBot.ne_bot_iff_exists.1 (List.maximum_ne_bot_of_ne_nil hne)
  rw [← hhigh, WithBot.coe_le_coe]
  exact mean_le hne fun x hx => List.le_maximum_of_mem hx hhigh.symm

end Mean

/-- A window is what it would be if every operation kept the last of all samples, whatever is done
to it: there are never more of them than there is room for, none comes back, and without rounding
the mean is theirs. -/
theorem keeps_most_recent :
    (∀ {α : Type} (n : ℕ) (ops : List (WindowOperation α)),
      let w := (empty n).after ops
      w = ops.foldl keepRecent (empty n) ∧ w.size ≤ w.capacity ∧ 1 ≤ w.capacity ∧
        ∀ later, (w.after later).samples <:+ w.samples ++ WindowOperation.added later) ∧
    ∀ (n : ℕ) (ops : List (WindowOperation ℝ)),
      let w := (empty n).after ops
      (w.samples = [] → w.mean = 0) ∧
        (w.samples ≠ [] → w.mean = w.samples.sum / w.size ∧
          w.samples.minimum ≤ w.mean ∧ w.mean ≤ w.samples.maximum) := by
  constructor
  · intro α n ops w
    have hbounded : w.IsBounded := (isBounded_empty n).after ops
    exact ⟨(isBounded_empty n).after_eq ops, hbounded.size_le, hbounded.one_le,
      samples_after_suffix w⟩
  · intro n ops w
    exact ⟨mean_of_eq_nil, fun hne => ⟨mean_of_ne_nil hne, minimum_le_mean hne,
      mean_le_maximum hne⟩⟩

/-- A window for no sample at all, made larger, smaller and larger again: of five samples the last
two are left, and another one is added to them. -/
theorem keeps_most_recent_resized :
    let w := (empty 0 : SampleWindow ℝ).after
      [.add 1, .add 2, .resize 3, .add 3, .add 4, .add 5, .resize 2, .resize 6, .add 9]
    w.samples = [4, 5, 9] ∧ w.mean = 6 ∧ w.samples.minimum ≤ w.mean ∧
      w.mean ≤ w.samples.maximum := by
  intro w
  have hsamples : w.samples = [4, 5, 9] := rfl
  have hsize : w.size = 3 := rfl
  obtain ⟨hmean, hlow, hhigh⟩ := (keeps_most_recent.2 0 _).2 (hsamples ▸ List.cons_ne_nil 4 [5, 9])
  refine ⟨hsamples, ?_, hlow, hhigh⟩
  rw [hmean, hsamples, hsize]
  norm_num

end SampleWindow

/-! ## Since the last reset -/

/-- What is done to an instrument. -/
inductive InstrumentOperation (ι : Type) where
  | run (input : ι)
  | reset

namespace InstrumentOperation

variable {ι : Type}

/-- What an instrument was fed since its last reset, in order. -/
def sinceReset (ops : List (InstrumentOperation ι)) : List ι :=
  ops.foldl (fun fed op => match op with | run input => fed ++ [input] | reset => []) []

theorem sinceReset_concat_run (ops : List (InstrumentOperation ι)) (input : ι) :
    sinceReset (ops ++ [run input]) = sinceReset ops ++ [input] := List.foldl_concat ..

theorem sinceReset_concat_reset (ops : List (InstrumentOperation ι)) :
    sinceReset (ops ++ [reset]) = [] := List.foldl_concat ..

/-- What every operation keeps between an instrument and its inputs since the reset holds after any
history. -/
theorem foldl_sinceReset {σ : Type} {perform : σ → InstrumentOperation ι → σ}
    {R : σ → List ι → Prop}
    (hrun : ∀ s fed input, R s fed → R (perform s (run input)) (fed ++ [input]))
    (hreset : ∀ s fed, R s fed → R (perform s reset) []) {s : σ} (h : R s [])
    (ops : List (InstrumentOperation ι)) : R (ops.foldl perform s) (sinceReset ops) := by
  induction ops using List.reverseRecOn with
  | nil => exact h
  | append_singleton ops op ih =>
    rw [List.foldl_concat]
    cases op with
    | run input =>
      rw [sinceReset_concat_run]
      exact hrun _ _ input ih
    | reset =>
      rw [sinceReset_concat_reset]
      exact hreset _ _ ih

end InstrumentOperation

namespace SampleWindow

/-- The window has room for `n` of the samples `xs` and holds the last of them. -/
structure Recalls (w : SampleWindow α) (n : ℕ) (xs : List α) : Prop where
  capacity : w.capacity = n
  samples : w.samples = xs.rtake n

variable {w : SampleWindow α} {n : ℕ} {xs : List α}

theorem recalls_empty (n : ℕ) : (empty n : SampleWindow α).Recalls (max n 1) [] :=
  ⟨rfl, List.rtake_nil _ |>.symm⟩

theorem Recalls.reset (h : w.Recalls n xs) : w.reset.Recalls n [] :=
  ⟨h.capacity, List.rtake_nil _ |>.symm⟩

theorem Recalls.add (h : w.Recalls n xs) (hn : 1 ≤ n) (x : α) :
    (w.add x).Recalls n (xs ++ [x]) := by
  have hbounded : w.IsBounded := by
    refine ⟨h.capacity.symm ▸ hn, ?_⟩
    rw [size, h.samples, length_rtake, h.capacity]
    exact min_le_left _ _
  rw [hbounded.add_eq x]
  refine ⟨h.capacity, ?_⟩
  rw [keepRecent, h.capacity, h.samples, rtake_append_rtake]

theorem Recalls.mean_of_eq_nil {w : SampleWindow ℝ} (h : w.Recalls n []) : w.mean = 0 :=
  SampleWindow.mean_of_eq_nil (h.samples.trans (List.rtake_nil n))

theorem Recalls.mean_of_ne_nil {w : SampleWindow ℝ} {xs : List ℝ} (h : w.Recalls n xs) (hn : 1 ≤ n)
    (hne : xs ≠ []) : w.mean = (xs.rtake n).sum / (xs.rtake n).length := by
  rw [← h.samples]
  exact SampleWindow.mean_of_ne_nil (h.samples ▸ rtake_ne_nil hn hne)

/-- Recent samples that are all the same are their mean. -/
theorem Recalls.mean_of_forall {w : SampleWindow ℝ} {xs : List ℝ} (h : w.Recalls n xs) (hn : 1 ≤ n)
    (hne : xs ≠ []) {x : ℝ} (hall : ∀ y ∈ xs.rtake n, y = x) : w.mean = x := by
  have hholds : w.Holds x := fun y hy => hall y (h.samples ▸ hy)
  exact hholds.mean (h.samples ▸ rtake_ne_nil hn hne)

end SampleWindow

end Multirotor
