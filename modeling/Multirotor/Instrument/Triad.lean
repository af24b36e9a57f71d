import Multirotor.Instrument.Noise
import Multirotor.Space.Vector

/-!
# Three-axis instruments

What most instruments are made of: a window of the most recent samples, whose mean the instrument
shows, and three windows of a vector quantity with the noise they share.
-/

namespace Multirotor

/-! ## Sample windows

A window keeps the most recent samples, oldest first, up to a number that is at least one. -/

/-- The most recent samples of a quantity. -/
structure SampleWindow (α : Type) where
  capacity : Nat
  samples : List α
  deriving DecidableEq, Repr

namespace SampleWindow

variable {α : Type}

/-- An empty window for `capacity` samples, at least one. -/
def empty (capacity : Nat) : SampleWindow α := { capacity := max capacity 1, samples := [] }

/-- The number of samples in the window. -/
def size (w : SampleWindow α) : Nat := w.samples.length

/-- The window with a sample added, and the oldest dropped when it was full. -/
def add (w : SampleWindow α) (x : α) : SampleWindow α :=
  let kept := if w.samples.length = w.capacity then w.samples.drop 1 else w.samples
  { w with samples := kept ++ [x] }

/-- The window for another number of samples, at least one; the oldest are dropped. -/
def resize (w : SampleWindow α) (capacity : Nat) : SampleWindow α :=
  let capacity := max capacity 1
  { capacity, samples := w.samples.drop (w.samples.length - capacity) }

/-- The mean of the window, zero when it is empty. -/
def mean [Zero α] [Add α] [Div α] [NatCast α] (w : SampleWindow α) : α :=
  if w.samples.isEmpty then 0 else w.samples.foldl (· + ·) 0 / (w.samples.length : α)

/-- The empty window for the same number of samples. -/
def reset (w : SampleWindow α) : SampleWindow α := { w with samples := [] }

end SampleWindow

-- Single precision has no `Scalar`; its zero and its counts are all that a mean needs.
instance binary32Zero : Zero Float32 := ⟨0.0⟩

instance binary32NatCast : NatCast Float32 := ⟨Float32.ofNat⟩

/-! ## Three windows -/

/-- The window and the noise of an instrument. -/
structure InstrumentSettings (α : Type) where
  sampleCount : UInt64
  /-- No noise for zero or less. -/
  noiseVariance : α
  deriving DecidableEq, Repr

/-- Three windows with common noise. -/
structure Triad (α : Type) where
  windows : Vec3 (SampleWindow α)
  noise : Noise α

variable {α : Type} [Scalar α]

namespace InstrumentSettings

/-- The last sample as it is. -/
def standard : InstrumentSettings α := { sampleCount := 1, noiseVariance := 0 }

/-- The empty window of the instrument. -/
def window (s : InstrumentSettings α) : SampleWindow α := .empty s.sampleCount.toNat

/-- Refuses a window without samples. -/
def check (s : InstrumentSettings α) (kind : InstrumentKind) : Except (Fault α) Unit :=
  if s.sampleCount = 0 then .error (.emptyWindow kind) else .ok ()

end InstrumentSettings

namespace Triad

/-- Empty windows with the noise of a seed. -/
def build (s : InstrumentSettings α) (seed : Option UInt64) (r : Randomness α) :
    Except (Fault α) (Triad α) := do
  let noise ← Noise.build s.noiseVariance seed r
  .ok { windows := .all s.window, noise }

/-- The windows with a sample added. -/
def add (t : Triad α) (v : Vec3 α) : Triad α :=
  { t with windows := t.windows.zipWith SampleWindow.add v }

/-- The means of the windows. -/
def mean (t : Triad α) : Vec3 α := t.windows.map SampleWindow.mean

/-- The means with noise added to the components in order. -/
def read (t : Triad α) : Vec3 α × Triad α :=
  let mean := t.mean
  let (x, noise) := t.noise.perturb mean.x
  let (y, noise) := noise.perturb mean.y
  let (z, noise) := noise.perturb mean.z
  (⟨x, y, z⟩, { t with noise })

/-- Empty windows with the noise after its next start. -/
def reset (t : Triad α) : Triad α :=
  { windows := t.windows.map SampleWindow.reset, noise := t.noise.reset }

end Triad

end Multirotor
