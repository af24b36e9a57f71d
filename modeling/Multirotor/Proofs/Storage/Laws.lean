import Multirotor.Proofs.Storage.Removal
import Multirotor.Storage.Body

/-!
# Laws of stored values

What reading makes of a stored value, whole or with keys removed.  A `Codec.Lawful` value is read
back as it was.  A `Codec.Fills` value is read from what any removal leaves of it, with something
filled in for what is gone; a `Codec.Strict` value is not read once a key is gone.  A record is
read field by field, so its laws are chains of one step for each field: `bind_filled` for one that
falls back to something, `bind_strict` for one that needs all keys of its value unless it goes as a
whole, and `bind_required` for one that has to be there.
-/

namespace Multirotor

open Document

variable {α β : Type}

/-! ## The laws -/

namespace Codec

/-- A stored value is read back. -/
class Lawful (α β : Type) [Codec α β] : Prop where
  decode_encode : ∀ x : β, decode (encode x : Document α) = some x

/-- A stored value has no keys. -/
class Keyless (α β : Type) [Codec α β] : Prop where
  keys_encode : ∀ x : β, (encode x : Document α).keys = []

/-- No value is stored as null. -/
class Present (α β : Type) [Codec α β] : Prop where
  encode_ne_null : ∀ x : β, (encode x : Document α) ≠ .null

/-- A stored value is read whatever keys are removed. -/
class Fills (α β : Type) [Codec α β] where
  filled : Removal → β → β
  decode_without : ∀ (r : Removal) (x : β),
    decode ((encode x : Document α).without r) = some (filled r x)
  filled_nothing : ∀ x : β, filled .nothing x = x

/-- A stored value is read with all of its keys only. -/
class Strict (α β : Type) [Codec α β] : Prop where
  decode_without : ∀ (r : Removal) (x : β),
    decode ((encode x : Document α).without r) =
      if r.Spares (encode x : Document α).keys then some x else none

export Lawful (decode_encode)
export Keyless (keys_encode)

variable [Codec α β]

theorem without_encode [Keyless α β] (r : Removal) (x : β) :
    (encode x : Document α).without r = encode x :=
  without_of_spares (by rw [keys_encode]; exact fun _ h => absurd h List.not_mem_nil)

theorem Lawful.of_fills [Fills α β] : Lawful α β where
  decode_encode x := by
    have h := Fills.decode_without (α := α) .nothing x
    rwa [without_nothing, Fills.filled_nothing] at h

theorem Lawful.of_strict [Strict α β] : Lawful α β where
  decode_encode x := by
    have h := Strict.decode_without (α := α) .nothing x
    rwa [without_nothing, if_pos (Removal.spares_nothing _)] at h

/-- Nothing has to be filled in without keys. -/
instance [Lawful α β] [Keyless α β] : Fills α β where
  filled _ x := x
  decode_without r x := by rw [without_encode, decode_encode]
  filled_nothing _ := rfl

/-! ## Options and lists -/

/-- A part that needs `p`, before others that need `q`. -/
theorem bind_eq_ite {γ : Type} {p q : Prop} [Decidable p] [Decidable q] {x : Option β}
    {f : β → Option γ} {y : β} {z : γ} (hx : x = if p then some y else none)
    (hf : f y = if q then some z else none) :
    (x >>= f) = if p ∧ q then some z else none := by
  subst hx
  by_cases hp : p
  · simp only [hp, true_and]
    exact hf
  · simp only [hp, false_and]
    rfl

theorem decode_option {d : Document α} (h : d ≠ .null) :
    (decode d : Option (Option β)) = (decode d : Option β).map some := by
  cases d with
  | null => exact absurd rfl h
  | _ => rfl

theorem decode_some (x : β) [Present α β] (r : Removal) :
    (decode ((encode (some x) : Document α).without r) : Option (Option β)) =
      (decode ((encode x : Document α).without r) : Option β).map some :=
  decode_option (without_ne_null r (Present.encode_ne_null x))

instance [Lawful α β] [Present α β] : Lawful α (Option β) where
  decode_encode x := by
    cases x with
    | none => rfl
    | some x =>
      have h := decode_option (β := β) (Present.encode_ne_null (α := α) x)
      rwa [decode_encode] at h

instance [Keyless α β] : Keyless α (Option β) where
  keys_encode x := by
    cases x with
    | none => rfl
    | some x => exact keys_encode x

/-- An option is filled like what it holds. -/
instance (priority := low) [Fills α β] [Present α β] : Fills α (Option β) where
  filled r x := x.map (Fills.filled α r)
  decode_without r x := by
    cases x with
    | none => rfl
    | some x => rw [decode_some, Fills.decode_without]; rfl
  filled_nothing x := by
    cases x with
    | none => rfl
    | some x => exact congrArg some (Fills.filled_nothing x)

instance [Strict α β] [Present α β] : Strict α (Option β) where
  decode_without r x := by
    cases x with
    | none => exact (if_pos fun _ hp => absurd hp List.not_mem_nil).symm
    | some x =>
      rw [decode_some, Strict.decode_without, apply_ite (Option.map some)]
      rfl

theorem mapM_decode_itemsWithout [Strict α β] (r : Removal) (i : Nat) (xs : List β) :
    (itemsWithout r i (xs.map encode)).mapM (decode : Document α → Option β) =
      if r.Spares (itemKeys i (xs.map (encode : β → Document α))) then some xs else none := by
  induction xs generalizing i with
  | nil => exact (if_pos fun _ hp => absurd hp List.not_mem_nil).symm
  | cons x xs ih =>
    have hkeys : r.Spares (itemKeys i ((x :: xs).map (encode : β → Document α))) ↔
        (r.under (.item i)).Spares (encode x : Document α).keys ∧
          r.Spares (itemKeys (i + 1) (xs.map (encode : β → Document α))) := by
      rw [List.map_cons, itemKeys, Removal.spares_append, Removal.spares_map_cons]
    simp only [hkeys]
    rw [List.map_cons, itemsWithout, List.mapM_cons, ih]
    refine bind_eq_ite (Strict.decode_without _ x) ?_
    split_ifs <;> rfl

instance [Strict α β] : Strict α (List β) where
  decode_without r xs := mapM_decode_itemsWithout r 0 xs

end Codec

/-! ## Fields -/

open Codec

section Fields

variable {γ : Type} {r : Removal} {fields : List (String × Document α)} {name : String}

/-- The document of a record gives its fields. -/
theorem bind_fields {f : List (String × Document α) → Option γ} {names : List String}
    {z : Option γ} (hf : f fields = z) : ((record fields).fields names >>= f) = z := hf

variable [Codec α β] {fallback x : β} {f : β → Option γ}

/-- A field that falls back to something is filled in when its key is removed, and else filled. -/
theorem bind_filled [Fills α β] {z : Option γ} (h : fields.lookup name = some (encode x))
    (hf : f (r.pick name fallback (Fills.filled α (r.under (.key name)) x)) = z) :
    (Document.optional (fieldsWithout r fields) name fallback >>= f) = z := by
  have hfield : Document.optional (fieldsWithout r fields) name fallback =
      some (r.pick name fallback (Fills.filled α (r.under (.key name)) x)) := by
    rw [Document.optional, lookup_fieldsWithout, h, Removal.pick]
    split_ifs
    · rfl
    · exact Fills.decode_without _ x
  rw [hfield]
  exact hf

/-- The key of a field is removed, or none behind it. -/
def Removal.Keeps (r : Removal) (name : String) (d : Document α) : Prop :=
  r.drops name = true ∨ (r.under (.key name)).Spares d.keys

instance (d : Document α) : Decidable (r.Keeps name d) := inferInstanceAs (Decidable (_ ∨ _))

/-- A field that falls back to something only as a whole. -/
theorem bind_strict [Strict α β] {p : Prop} [Decidable p] {z : γ}
    (h : fields.lookup name = some (encode x))
    (hf : f (r.pick name fallback x) = if p then some z else none) :
    (Document.optional (fieldsWithout r fields) name fallback >>= f) =
      if r.Keeps name (encode x : Document α) ∧ p then some z else none := by
  refine bind_eq_ite ?_ hf
  rw [Document.optional, lookup_fieldsWithout, h, Removal.pick]
  by_cases hdrops : r.drops name = true
  · have hkeeps : r.Keeps name (encode x : Document α) := .inl hdrops
    rw [if_pos hdrops, if_pos hdrops, if_pos hkeeps]
  · have hkeeps : r.Keeps name (encode x : Document α) ↔
        (r.under (.key name)).Spares (encode x : Document α).keys := or_iff_right hdrops
    simp only [if_neg hdrops, hkeeps]
    exact Strict.decode_without _ x

/-- A field that has to be there. -/
theorem bind_required [Lawful α β] [Keyless α β] {paths : List (List Step)} {z : γ}
    (h : fields.lookup name = some (encode x))
    (hf : f x = if r.Spares paths then some z else none) :
    (required (fieldsWithout r fields) name >>= f) =
      if r.Spares ([.key name] :: paths) then some z else none := by
  simp only [Removal.spares_cons]
  refine bind_eq_ite ?_ hf
  rw [required, lookup_fieldsWithout, h, Removal.drops]
  cases r [.key name] with
  | true => rfl
  | false =>
    change (decode ((encode x : Document α).without _) : Option β) = some x
    rw [without_encode, decode_encode]

end Fields

/-! ## Numbers, words and vectors -/

instance [Scalar α] : Lawful α α where
  decode_encode _ := rfl

instance [Scalar α] : Keyless α α where
  keys_encode _ := rfl

instance [Scalar α] : Present α α where
  encode_ne_null _ := nofun

instance : Lawful α Bool where
  decode_encode _ := rfl

instance : Keyless α Bool where
  keys_encode _ := rfl

instance : Lawful α UInt64 where
  decode_encode n := by
    have hrange : 0 ≤ Int.ofNat n.toNat ∧ Int.ofNat n.toNat < 0x10000000000000000 :=
      ⟨Int.natCast_nonneg _, Int.ofNat_lt.2 n.toNat_lt⟩
    change (if _ then some (UInt64.ofNat n.toNat) else none) = some n
    rw [if_pos hrange, UInt64.ofNat_toNat]

instance : Keyless α UInt64 where
  keys_encode _ := rfl

instance : Present α UInt64 where
  encode_ne_null _ := nofun

instance [Codec α β] [Lawful α β] : Lawful α (Vec3 β) where
  decode_encode v := by
    change (do return (⟨← decode (encode v.x : Document α), ← decode (encode v.y : Document α),
      ← decode (encode v.z : Document α)⟩ : Vec3 β)) = some v
    rw [decode_encode, decode_encode, decode_encode]
    rfl

instance [Codec α β] [Keyless α β] : Keyless α (Vec3 β) where
  keys_encode v := by
    change itemKeys 0 [encode v.x, encode v.y, encode v.z] = []
    simp only [itemKeys, keys_encode, List.map_nil, List.append_nil]

instance [Codec α β] [Lawful α β] : Lawful α (Euler β) where
  decode_encode e := congrArg (Option.map Euler.ofVec3) (decode_encode e.toVec3)

instance [Codec α β] [Keyless α β] : Keyless α (Euler β) where
  keys_encode e := keys_encode e.toVec3

end Multirotor
