import Multirotor.Scalar

/-!
# The transmitter

The sticks and buttons of a radio transmitter.  A stick that is not driven springs back toward its
center by the same travel in every tick; a button stays pressed for some time after it was released.
-/

namespace Multirotor

/-- A stick axis. -/
inductive Stick where
  | heading
  | vertical
  | horizontal
  | forward
  deriving DecidableEq, Repr

/-- A button. -/
inductive Button where
  | radioControl
  | grab
  | camera
  | home
  deriving DecidableEq, Repr

/-- One value for each stick axis. -/
structure Sticks (β : Type) where
  heading : β
  vertical : β
  horizontal : β
  forward : β
  deriving DecidableEq, Repr

/-- One value for each button. -/
structure Buttons (β : Type) where
  radioControl : β
  grab : β
  camera : β
  home : β
  deriving DecidableEq, Repr

/-- What an operator does in one tick. -/
structure RadioCommand (α : Type) where
  /-- The driven sticks. -/
  sticks : Sticks (Option α)
  /-- The pressed buttons. -/
  buttons : Buttons Bool
  deriving DecidableEq, Repr

/-- The transmitter in the operator's hands. -/
structure Transmitter (α : Type) where
  sticks : Sticks α
  /-- Microseconds for which each button stays pressed. -/
  timers : Buttons UInt64
  decay : α
  buttonTime : UInt64
  deriving DecidableEq, Repr

namespace Sticks

variable {β γ δ : Type}

/-- The same value on every axis. -/
def all (b : β) : Sticks β := ⟨b, b, b, b⟩

/-- A value applied to every axis. -/
def map (f : β → γ) (s : Sticks β) : Sticks γ :=
  ⟨f s.heading, f s.vertical, f s.horizontal, f s.forward⟩

/-- The values of two sets of sticks combined. -/
def zipWith (f : β → γ → δ) (s : Sticks β) (t : Sticks γ) : Sticks δ :=
  ⟨f s.heading t.heading, f s.vertical t.vertical, f s.horizontal t.horizontal,
    f s.forward t.forward⟩

/-- The values in order. -/
def toList (s : Sticks β) : List β := [s.heading, s.vertical, s.horizontal, s.forward]

/-- The sticks with one of them set. -/
def set (s : Sticks β) (axis : Stick) (b : β) : Sticks β :=
  match axis with
  | .heading => { s with heading := b }
  | .vertical => { s with vertical := b }
  | .horizontal => { s with horizontal := b }
  | .forward => { s with forward := b }

/-- The value of one stick. -/
def get (s : Sticks β) : Stick → β
  | .heading => s.heading
  | .vertical => s.vertical
  | .horizontal => s.horizontal
  | .forward => s.forward

@[simp] theorem get_all (b : β) (axis : Stick) : (all b).get axis = b := by cases axis <;> rfl

@[simp] theorem get_zipWith (f : β → γ → δ) (s : Sticks β) (t : Sticks γ) (axis : Stick) :
    (s.zipWith f t).get axis = f (s.get axis) (t.get axis) := by cases axis <;> rfl

end Sticks

namespace Buttons

variable {β γ δ : Type}

/-- The same value for every button. -/
def all (b : β) : Buttons β := ⟨b, b, b, b⟩

/-- A value applied to every button. -/
def map (f : β → γ) (s : Buttons β) : Buttons γ :=
  ⟨f s.radioControl, f s.grab, f s.camera, f s.home⟩

/-- The values of two sets of buttons combined. -/
def zipWith (f : β → γ → δ) (s : Buttons β) (t : Buttons γ) : Buttons δ :=
  ⟨f s.radioControl t.radioControl, f s.grab t.grab, f s.camera t.camera, f s.home t.home⟩

/-- The values in order. -/
def toList (s : Buttons β) : List β := [s.radioControl, s.grab, s.camera, s.home]

/-- The buttons with one of them set. -/
def set (s : Buttons β) (button : Button) (b : β) : Buttons β :=
  match button with
  | .radioControl => { s with radioControl := b }
  | .grab => { s with grab := b }
  | .camera => { s with camera := b }
  | .home => { s with home := b }

/-- The value of one button. -/
def get (s : Buttons β) : Button → β
  | .radioControl => s.radioControl
  | .grab => s.grab
  | .camera => s.camera
  | .home => s.home

@[simp] theorem get_all (b : β) (button : Button) : (all b).get button = b := by
  cases button <;> rfl

@[simp] theorem get_map (f : β → γ) (s : Buttons β) (button : Button) :
    (s.map f).get button = f (s.get button) := by cases button <;> rfl

@[simp] theorem get_zipWith (f : β → γ → δ) (s : Buttons β) (t : Buttons γ) (button : Button) :
    (s.zipWith f t).get button = f (s.get button) (t.get button) := by cases button <;> rfl

end Buttons

namespace RadioCommand

variable {α : Type}

/-- Nothing is driven or pressed. -/
def idle : RadioCommand α := { sticks := .all none, buttons := .all false }

/-- The command with a stick driven. -/
def drive (c : RadioCommand α) (axis : Stick) (value : α) : RadioCommand α :=
  { c with sticks := c.sticks.set axis (some value) }

/-- The command with a button pressed. -/
def press (c : RadioCommand α) (button : Button) : RadioCommand α :=
  { c with buttons := c.buttons.set button true }

end RadioCommand

namespace Transmitter

variable {α : Type} [Scalar α]

open Scalar

/-- A transmitter with its sticks centered and no button pressed. -/
def start (decay : α) (buttonTime : UInt64) : Transmitter α :=
  { sticks := .all 0, timers := .all 0, decay, buttonTime }

/-- A stick after a tick.  A released stick within one travel of the center snaps to it. -/
def moveStick (decay position : α) : Option α → α
  | some value => clamp value (-1) 1
  | none => if abs position ≤ decay then 0 else position - decay * signum position

/-- A timer after `elapsed` microseconds; a press starts it anew. -/
def runTimer (buttonTime elapsed left : UInt64) (pressed : Bool) : UInt64 :=
  if pressed then buttonTime else if elapsed ≤ left then left - elapsed else 0

/-- One tick of `elapsed` microseconds; without a command nothing is driven or pressed. -/
def update (t : Transmitter α) (command : Option (RadioCommand α)) (elapsed : UInt64) :
    Transmitter α :=
  let command := command.getD .idle
  { t with
    sticks := t.sticks.zipWith (moveStick t.decay) command.sticks
    timers := t.timers.zipWith (runTimer t.buttonTime elapsed) command.buttons }

/-- Which buttons are pressed. -/
def pressed (t : Transmitter α) : Buttons Bool := t.timers.map fun left => decide (0 < left)

/-- The transmitter with its sticks centered and no button pressed. -/
def reset (t : Transmitter α) : Transmitter α := start t.decay t.buttonTime

end Transmitter

end Multirotor
