import Mathlib.Data.List.DropRight
import Mathlib.Data.List.ReduceOption
import Mathlib.Data.Real.Sign
import Multirotor.Pilot.Transmitter
import Multirotor.Proofs.Scalar.Exact

/-!
# Histories of a transmitter

Where the sticks of a transmitter are and which of its buttons are pressed, after any sequence of
updates and resets and by what the updates since the last reset said.

A released stick is moved toward its center and not past it.  Two such moves are one by the sum of
their travels (`shrink_shrink`), so all that counts is where the stick was last put and for how many
updates it has been released.  A timer runs down to zero from the last press, so all that counts is
the time since then, however large.  `Transmitter.follows_history` has both.
-/

namespace Multirotor

open Scalar

/-! ## Moving toward zero -/

/-- A number moved toward zero by some travel, at most as far as zero. -/
noncomputable def shrink (travel x : ℝ) : ℝ := Real.sign x * max 0 (|x| - travel)

section Shrink

variable {travel : ℝ} (x : ℝ)

@[simp] theorem shrink_at_zero (travel : ℝ) : shrink travel 0 = 0 := by
  rw [shrink, Real.sign_zero, zero_mul]

theorem shrink_of_abs_le {x : ℝ} (h : |x| ≤ travel) : shrink travel x = 0 := by
  rw [shrink, max_eq_left (sub_nonpos.2 h), mul_zero]

theorem shrink_of_le_abs {x : ℝ} (h : travel ≤ |x|) :
    shrink travel x = Real.sign x * (|x| - travel) := by
  rw [shrink, max_eq_right (sub_nonneg.2 h)]

theorem sign_mul_abs : Real.sign x * |x| = x := by
  obtain hneg | rfl | hpos := lt_trichotomy x 0
  · rw [Real.sign_of_neg hneg, abs_of_neg hneg, neg_one_mul, neg_neg]
  · rw [abs_zero, mul_zero]
  · rw [Real.sign_of_pos hpos, abs_of_pos hpos, one_mul]

theorem shrink_zero : shrink 0 x = x := by
  rw [shrink_of_le_abs (abs_nonneg x), sub_zero, sign_mul_abs]

theorem sign_mul_of_pos {y : ℝ} (hy : 0 < y) : Real.sign (Real.sign x * y) = Real.sign x := by
  obtain hneg | rfl | hpos := lt_trichotomy x 0
  · rw [Real.sign_of_neg hneg, neg_one_mul, Real.sign_of_neg (neg_lt_zero.2 hy)]
  · rw [Real.sign_zero, zero_mul, Real.sign_zero]
  · rw [Real.sign_of_pos hpos, one_mul, Real.sign_of_pos hy]

/-- The far side of zero is not reached. -/
theorem mul_shrink_nonneg : 0 ≤ x * shrink travel x := by
  calc 0 ≤ Real.sign x * x * max 0 (|x| - travel) :=
        mul_nonneg (Real.sign_mul_nonneg x) (le_max_left _ _)
    _ = x * shrink travel x := by rw [shrink]; ring

variable (htravel : 0 ≤ travel)

include htravel

theorem abs_shrink : |shrink travel x| = max 0 (|x| - travel) := by
  obtain rfl | hx := eq_or_ne x 0
  · rw [shrink_at_zero, abs_zero, zero_sub, max_eq_left (neg_nonpos.2 htravel)]
  · have hsign : |Real.sign x| = 1 := by
      obtain h | h := Real.sign_apply_eq_of_ne_zero x hx <;> rw [h] <;> norm_num
    rw [shrink, abs_mul, hsign, one_mul, abs_of_nonneg (le_max_left _ _)]

theorem abs_shrink_le : |shrink travel x| ≤ |x| := by
  rw [abs_shrink x htravel]
  exact max_le (abs_nonneg x) (sub_le_self _ htravel)

theorem shrink_shrink {further : ℝ} (hfurther : 0 ≤ further) :
    shrink further (shrink travel x) = shrink (travel + further) x := by
  rcases le_or_gt |x| travel with hnear | hfar
  · rw [shrink_of_abs_le hnear, shrink_at_zero, shrink_of_abs_le (by linarith)]
  · have hleft : 0 < |x| - travel := sub_pos.2 hfar
    rw [shrink, abs_shrink x htravel, max_eq_right hleft.le, shrink_of_le_abs hfar.le,
      sign_mul_of_pos x hleft, shrink, sub_sub]

end Shrink

/-! ## What was said since the last reset -/

/-- What happens to a transmitter. -/
inductive RadioOperation (α : Type) where
  | update (command : Option (RadioCommand α)) (elapsed : UInt64)
  | reset

/-- What an update says about a button. -/
structure ButtonTick where
  pressed : Bool
  elapsed : UInt64
  deriving DecidableEq, Repr

namespace RadioOperation

variable {α β : Type}

/-- What was said since the last reset, after one more operation. -/
def addTo (read : Option (RadioCommand α) → UInt64 → β) (said : List β) :
    RadioOperation α → List β
  | .update command elapsed => said ++ [read command elapsed]
  | .reset => []

/-- What the updates since the last reset said, in order. -/
def said (read : Option (RadioCommand α) → UInt64 → β) (ops : List (RadioOperation α)) : List β :=
  ops.foldl (addTo read) []

theorem said_concat (read : Option (RadioCommand α) → UInt64 → β) (ops : List (RadioOperation α))
    (op : RadioOperation α) : said read (ops ++ [op]) = op.addTo read (said read ops) :=
  List.foldl_concat ..

/-- Where a command puts a stick, if it says anything about it. -/
def drive (axis : Stick) (command : Option (RadioCommand α)) : Option α :=
  command.bind (·.sticks.get axis)

/-- Whether a command presses a button. -/
def press (button : Button) (command : Option (RadioCommand α)) : Bool :=
  (command.map (·.buttons.get button)).getD false

/-- What the updates since the last reset said about a stick. -/
def drives (axis : Stick) (ops : List (RadioOperation α)) : List (Option α) :=
  said (fun command _ => drive axis command) ops

/-- What the updates since the last reset said about a button. -/
def presses (button : Button) (ops : List (RadioOperation α)) : List ButtonTick :=
  said (fun command elapsed => { pressed := press button command, elapsed }) ops

variable (ops : List (RadioOperation α)) (command : Option (RadioCommand α)) (elapsed : UInt64)

theorem drives_concat_update (axis : Stick) :
    drives axis (ops ++ [.update command elapsed]) = drives axis ops ++ [drive axis command] :=
  said_concat ..

theorem drives_concat_reset (axis : Stick) : drives axis (ops ++ [.reset]) = [] := said_concat ..

theorem presses_concat_update (button : Button) :
    presses button (ops ++ [.update command elapsed]) =
      presses button ops ++ [{ pressed := press button command, elapsed }] :=
  said_concat ..

theorem presses_concat_reset (button : Button) : presses button (ops ++ [.reset]) = [] :=
  said_concat ..

end RadioOperation

/-! ## Sticks -/

/-- Where a stick was last put, within its travel; in the center if nowhere. -/
noncomputable def lastPut (drives : List (Option ℝ)) : ℝ :=
  (drives.reduceOption.getLast?.map (clamp · (-1) 1)).getD 0

/-- The number of updates since a stick was last driven. -/
def released {α : Type} (drives : List (Option α)) : ℕ := (drives.rtakeWhile Option.isNone).length

section Drives

variable (drives : List (Option ℝ))

theorem lastPut_concat_some (value : ℝ) :
    lastPut (drives ++ [some value]) = clamp value (-1) 1 := by
  rw [lastPut, List.reduceOption_append, List.reduceOption_singleton, Option.toList_some,
    List.getLast?_concat]
  rfl

theorem lastPut_concat_none : lastPut (drives ++ [none]) = lastPut drives := by
  rw [lastPut, List.reduceOption_append, List.reduceOption_singleton, Option.toList_none,
    List.append_nil]
  rfl

theorem released_concat_some (value : ℝ) : released (drives ++ [some value]) = 0 := by
  rw [released, List.rtakeWhile_concat_neg _ _ _ Bool.false_ne_true]
  rfl

theorem released_concat_none : released (drives ++ [none]) = released drives + 1 := by
  rw [released, List.rtakeWhile_concat_pos _ _ _ rfl, List.length_append]
  rfl

theorem abs_lastPut_le : |lastPut drives| ≤ 1 := by
  unfold lastPut
  cases drives.reduceOption.getLast? with
  | none =>
    rw [Option.map_none, Option.getD_none, abs_zero]
    exact zero_le_one
  | some value => exact abs_le.2 (clamp_mem value (by norm_num))

end Drives

/-! ## Buttons -/

/-- The microseconds of the updates since a button was last pressed. -/
def quietTime (ticks : List ButtonTick) : ℕ :=
  ((ticks.rtakeWhile (!·.pressed)).map (·.elapsed.toNat)).sum

theorem quietTime_concat_pressed (ticks : List ButtonTick) (elapsed : UInt64) :
    quietTime (ticks ++ [{ pressed := true, elapsed }]) = 0 := by
  rw [quietTime, List.rtakeWhile_concat_neg _ _ _ Bool.false_ne_true]
  rfl

theorem quietTime_concat_released (ticks : List ButtonTick) (elapsed : UInt64) :
    quietTime (ticks ++ [{ pressed := false, elapsed }]) = quietTime ticks + elapsed.toNat := by
  rw [quietTime, List.rtakeWhile_concat_pos _ _ _ rfl, List.map_append, List.sum_append]
  rfl

/-! ## Operations -/

namespace Transmitter

theorem moveStick_none {decay : ℝ} (hdecay : 0 ≤ decay) (position : ℝ) :
    moveStick decay position none = shrink decay position := by
  rw [moveStick, abs_real]
  split_ifs with hnear
  · rw [shrink_of_abs_le hnear]
  · have hfar : decay < |position| := not_le.1 hnear
    rw [shrink_of_le_abs hfar.le]
    change position - decay * (if position < 0 then -1 else 1) = _
    split_ifs with hneg
    · rw [Real.sign_of_neg hneg, abs_of_neg hneg]
      ring
    · have hpos : 0 < position := by
        refine lt_of_le_of_ne (not_lt.1 hneg) ?_
        rintro rfl
        rw [abs_zero] at hfar
        linarith
      rw [Real.sign_of_pos hpos, abs_of_pos hpos]
      ring

section Histories

variable {α : Type} [Scalar α]

/-- The transmitter after an operation. -/
def perform (t : Transmitter α) : RadioOperation α → Transmitter α
  | .update command elapsed => t.update command elapsed
  | .reset => t.reset

/-- The transmitter after a sequence of operations. -/
def after (t : Transmitter α) (ops : List (RadioOperation α)) : Transmitter α :=
  ops.foldl perform t

theorem after_concat (t : Transmitter α) (ops : List (RadioOperation α)) (op : RadioOperation α) :
    t.after (ops ++ [op]) = (t.after ops).perform op :=
  List.foldl_concat ..

theorem settings_after (t : Transmitter α) (ops : List (RadioOperation α)) :
    (t.after ops).decay = t.decay ∧ (t.after ops).buttonTime = t.buttonTime := by
  induction ops using List.reverseRecOn with
  | nil => exact ⟨rfl, rfl⟩
  | append_singleton ops op ih =>
    rw [after_concat]
    cases op <;> exact ih

theorem stick_update (t : Transmitter α) (axis : Stick) (command : Option (RadioCommand α))
    (elapsed : UInt64) : (t.update command elapsed).sticks.get axis =
      moveStick t.decay (t.sticks.get axis) (RadioOperation.drive axis command) := by
  rw [update]
  dsimp only
  rw [Sticks.get_zipWith]
  cases command with
  | none => rw [Option.getD_none, RadioCommand.idle, Sticks.get_all]; rfl
  | some command => rfl

theorem timer_update (t : Transmitter α) (button : Button) (command : Option (RadioCommand α))
    (elapsed : UInt64) : (t.update command elapsed).timers.get button =
      runTimer t.buttonTime elapsed (t.timers.get button)
        (RadioOperation.press button command) := by
  rw [update]
  dsimp only
  rw [Buttons.get_zipWith]
  cases command with
  | none => rw [Option.getD_none, RadioCommand.idle, Buttons.get_all]; rfl
  | some command => rfl

theorem toNat_runTimer (buttonTime elapsed left : UInt64) (pressed : Bool) :
    (runTimer buttonTime elapsed left pressed).toNat =
      if pressed then buttonTime.toNat else left.toNat - elapsed.toNat := by
  unfold runTimer
  split_ifs with hpressed hleft
  · rfl
  · exact UInt64.toNat_sub_of_le _ _ hleft
  · have hlt : left.toNat < elapsed.toNat := UInt64.lt_iff_toNat_lt.1 (UInt64.not_le.1 hleft)
    exact (Nat.sub_eq_zero_of_le hlt.le).symm

end Histories

/-! ## A transmitter from its start -/

section Started

variable {decay : ℝ} (hdecay : 0 ≤ decay) (buttonTime : UInt64) (ops : List (RadioOperation ℝ))

include hdecay in
theorem stick_after (axis : Stick) :
    ((start decay buttonTime).after ops).sticks.get axis =
      shrink (released (RadioOperation.drives axis ops) * decay)
        (lastPut (RadioOperation.drives axis ops)) := by
  have hcenter : (start decay buttonTime).sticks.get axis =
      shrink (released ([] : List (Option ℝ)) * decay) (lastPut []) := by
    rw [start, Sticks.get_all]
    exact (shrink_at_zero _).symm
  induction ops using List.reverseRecOn with
  | nil => exact hcenter
  | append_singleton ops op ih =>
    obtain ⟨hlength, htime⟩ := (start decay buttonTime).settings_after ops
    rw [after_concat]
    cases op with
    | reset =>
      rw [RadioOperation.drives_concat_reset, ← hcenter, perform, reset, hlength, htime]
      rfl
    | update command elapsed =>
      rw [RadioOperation.drives_concat_update, perform, stick_update, hlength, ih]
      change moveStick decay _ _ = _
      cases RadioOperation.drive axis command with
      | some value =>
        rw [released_concat_some, lastPut_concat_some, Nat.cast_zero, zero_mul, shrink_zero]
        rfl
      | none =>
        rw [released_concat_none, lastPut_concat_none, moveStick_none hdecay,
          shrink_shrink _ (by positivity) hdecay, Nat.cast_succ, add_one_mul]

theorem toNat_timer_after (button : Button) :
    (((start decay buttonTime).after ops).timers.get button).toNat =
      if (RadioOperation.presses button ops).any (·.pressed) then
        buttonTime.toNat - quietTime (RadioOperation.presses button ops)
      else 0 := by
  have hzero : ((start decay buttonTime).timers.get button).toNat = 0 := by
    rw [start, Buttons.get_all]
    rfl
  induction ops using List.reverseRecOn with
  | nil => exact hzero
  | append_singleton ops op ih =>
    obtain ⟨hlength, htime⟩ := (start decay buttonTime).settings_after ops
    rw [after_concat]
    cases op with
    | reset =>
      rw [RadioOperation.presses_concat_reset, perform, reset, hlength, htime]
      exact hzero
    | update command elapsed =>
      rw [RadioOperation.presses_concat_update, perform, timer_update, htime, toNat_runTimer, ih,
        List.any_append, List.any_cons, List.any_nil, Bool.or_false]
      change (if _ then buttonTime.toNat else _) = _
      cases RadioOperation.press button command with
      | true => rw [Bool.or_true, if_pos rfl, if_pos rfl, quietTime_concat_pressed, Nat.sub_zero]
      | false =>
        rw [Bool.or_false, if_neg Bool.false_ne_true, quietTime_concat_released]
        split_ifs
        · exact Nat.sub_sub _ _ _
        · exact Nat.zero_sub _

theorem pressed_after_iff (button : Button) :
    ((start decay buttonTime).after ops).pressed.get button = true ↔
      (∃ tick ∈ RadioOperation.presses button ops, tick.pressed = true) ∧
        quietTime (RadioOperation.presses button ops) < buttonTime.toNat := by
  rw [pressed, Buttons.get_map, decide_eq_true_iff, UInt64.lt_iff_toNat_lt, toNat_timer_after,
    ← List.any_eq_true]
  split_ifs with hever
  · rw [and_iff_right hever]
    exact Nat.sub_pos_iff_lt
  · exact iff_of_false (lt_irrefl 0) fun h => hever h.1

end Started

/-- After any history of a transmitter a stick is where it was last put, moved toward the center by
one travel for each update since then, and a button is pressed exactly if it was pressed for the
last time less than its time ago.  A released stick goes on to zero without passing it and stays
there.  Nothing else that the commands say matters to the one or the other. -/
theorem follows_history {decay : ℝ} (hdecay : 0 ≤ decay) (buttonTime : UInt64)
    (ops : List (RadioOperation ℝ)) :
    let t := (start decay buttonTime).after ops
    (∀ axis,
      let s := lastPut (RadioOperation.drives axis ops)
      let n := released (RadioOperation.drives axis ops)
      |t.sticks.get axis| ≤ 1 ∧
      t.sticks.get axis = Real.sign s * max 0 (|s| - n * decay) ∧
      (∀ command elapsed, RadioOperation.drive axis command = none →
        let next := (t.update command elapsed).sticks.get axis
        0 ≤ t.sticks.get axis * next ∧ |next| ≤ |t.sticks.get axis| ∧
          (t.sticks.get axis = 0 → next = 0)) ∧
      ∀ ops', RadioOperation.drives axis ops' = RadioOperation.drives axis ops →
        ((start decay buttonTime).after ops').sticks.get axis = t.sticks.get axis) ∧
    ∀ button,
      (t.pressed.get button = true ↔
        (∃ tick ∈ RadioOperation.presses button ops, tick.pressed = true) ∧
          quietTime (RadioOperation.presses button ops) < buttonTime.toNat) ∧
      ∀ ops', RadioOperation.presses button ops' = RadioOperation.presses button ops →
        ((start decay buttonTime).after ops').pressed.get button = t.pressed.get button := by
  intro t
  refine ⟨fun axis => ⟨?_, ?_, ?_, ?_⟩, fun button => ⟨?_, ?_⟩⟩
  · rw [stick_after hdecay buttonTime ops axis]
    exact (abs_shrink_le _ (by positivity)).trans (abs_lastPut_le _)
  · exact stick_after hdecay buttonTime ops axis
  · intro command elapsed hnone next
    have hnext : next = shrink decay (t.sticks.get axis) := by
      rw [← moveStick_none hdecay, ← hnone]
      refine (stick_update t axis command elapsed).trans ?_
      rw [((start decay buttonTime).settings_after ops).1]
      rfl
    rw [hnext]
    refine ⟨mul_shrink_nonneg _, abs_shrink_le _ hdecay, fun hzero => ?_⟩
    rw [hzero, shrink_at_zero]
  · intro ops' hsame
    rw [stick_after hdecay, stick_after hdecay, hsame]
  · exact pressed_after_iff buttonTime ops button
  · intro ops' hsame
    rw [Bool.eq_iff_iff, pressed_after_iff, pressed_after_iff, hsame]

/-- A stick that has been let go for two updates, and a button that stays pressed for the longest
time there is.  The microseconds of the two updates do not fit a word together, and the button has
been let go all the same. -/
theorem follows_history_long :
    let command : RadioCommand ℝ := (RadioCommand.idle.drive .vertical (-(1 / 400))).press .camera
    let ops : List (RadioOperation ℝ) :=
      [.update (some command) 1000, .update none 0x8000000000000000,
        .update none 0x8000000000000000]
    let t := (start (1 / 1000) 0xffffffffffffffff).after ops
    (0 : ℝ) ≤ 1 / 1000 ∧ t.sticks.get .vertical = -(1 / 2000) ∧ t.pressed.get .camera = false ∧
      RadioOperation.drive .vertical (none : Option (RadioCommand ℝ)) = none ∧
      0 ≤ -(1 / 2000) * (t.update none 0).sticks.get .vertical := by
  intro command ops t
  have hdecay : (0 : ℝ) ≤ 1 / 1000 := by norm_num
  obtain ⟨hsticks, hbuttons⟩ := follows_history hdecay 0xffffffffffffffff ops
  obtain ⟨-, hposition, hreleased, -⟩ := hsticks .vertical
  obtain ⟨hcamera, -⟩ := hbuttons .camera
  have hs : lastPut (RadioOperation.drives .vertical ops) = -(1 / 400) := by
    change clamp (-(1 / 400)) (-1) 1 = _
    exact clamp_of_mem _ (by norm_num) (by norm_num)
  have hn : released (RadioOperation.drives .vertical ops) = 2 := rfl
  have hquiet : quietTime (RadioOperation.presses .camera ops) = 2 ^ 64 := by
    change quietTime ([] ++ [{ pressed := true, elapsed := 1000 }] ++
      [{ pressed := false, elapsed := 0x8000000000000000 }] ++
      [{ pressed := false, elapsed := 0x8000000000000000 }]) = _
    rw [quietTime_concat_released, quietTime_concat_released, quietTime_concat_pressed]
    decide +kernel
  have hvertical : t.sticks.get .vertical = -(1 / 2000) := by
    refine hposition.trans ?_
    rw [hs, hn, Real.sign_of_neg (by norm_num), abs_of_neg (by norm_num), max_eq_right] <;>
      norm_num
  have hnone : RadioOperation.drive .vertical (none : Option (RadioCommand ℝ)) = none := rfl
  refine ⟨hdecay, hvertical, ?_, hnone, ?_⟩
  · rw [← Bool.not_eq_true, hcamera, hquiet]
    exact fun h => absurd h.2 (by decide +kernel)
  · rw [← hvertical]
    exact (hreleased none 0 hnone).1

end Transmitter

end Multirotor
