import Mathlib.Tactic.SplitIfs
import Multirotor.Document.Codec

/-!
# Removed keys

A `Removal` says which keys are taken out of a document, each by the path that leads to it, and
`Document.without` takes them out at any depth.  A field of what is left is the field as it was,
less what is removed behind it, or it is gone with its key (`lookup_fieldsWithout`); a removal that
spares all keys of a document leaves it as it is (`without_of_spares`).
-/

namespace Multirotor

/-- A step from a document to a part of it. -/
inductive Step where
  | key (name : String)
  | item (index : Nat)
  deriving DecidableEq, Repr

/-- Whether a key is removed, by the steps that lead to it. -/
abbrev Removal : Type := List Step → Bool

namespace Removal

/-- Nothing is removed. -/
def nothing : Removal := fun _ => false

/-- What is removed behind a step. -/
def under (r : Removal) (s : Step) : Removal := fun path => r (s :: path)

/-- A key of the document itself is removed. -/
def drops (r : Removal) (name : String) : Bool := r [.key name]

/-- A field whose key may be removed. -/
def pick {β : Type} (r : Removal) (name : String) (fallback x : β) : β :=
  if r.drops name then fallback else x

end Removal

namespace Document

variable {α : Type}

mutual

/-- A document without the keys that are removed. -/
def without : Removal → Document α → Document α
  | _, null => null
  | _, bool b => bool b
  | _, integer n => integer n
  | _, real x => real x
  | _, text s => text s
  | r, list items => list (itemsWithout r 0 items)
  | r, record fields => record (fieldsWithout r fields)

/-- Items without the keys that are removed behind them, the first of them being the `i`th. -/
def itemsWithout : Removal → Nat → List (Document α) → List (Document α)
  | _, _, [] => []
  | r, i, item :: items => item.without (r.under (.item i)) :: itemsWithout r (i + 1) items

/-- The fields whose keys are not removed, without the keys that are removed behind them. -/
def fieldsWithout : Removal → List (String × Document α) → List (String × Document α)
  | _, [] => []
  | r, (name, value) :: fields =>
    if r.drops name then fieldsWithout r fields
    else (name, value.without (r.under (.key name))) :: fieldsWithout r fields

end

mutual

/-- The paths to all keys of a document. -/
def keys : Document α → List (List Step)
  | null => []
  | bool _ => []
  | integer _ => []
  | real _ => []
  | text _ => []
  | list items => itemKeys 0 items
  | record fields => fieldKeys fields

/-- The paths to all keys of items, the first of them being the `i`th. -/
def itemKeys : Nat → List (Document α) → List (List Step)
  | _, [] => []
  | i, item :: items => item.keys.map (.item i :: ·) ++ itemKeys (i + 1) items

/-- The paths to all keys of fields. -/
def fieldKeys : List (String × Document α) → List (List Step)
  | [] => []
  | (name, value) :: fields => [.key name] :: value.keys.map (.key name :: ·) ++ fieldKeys fields

end

end Document

/-- No key among some is removed. -/
def Removal.Spares (r : Removal) (paths : List (List Step)) : Prop := ∀ p ∈ paths, r p = false

instance (r : Removal) (paths : List (List Step)) : Decidable (r.Spares paths) :=
  inferInstanceAs (Decidable (∀ p ∈ paths, r p = false))

namespace Removal

variable {r : Removal}

theorem spares_nothing (ps : List (List Step)) : nothing.Spares ps := fun _ _ => rfl

theorem spares_append {ps qs : List (List Step)} :
    r.Spares (ps ++ qs) ↔ r.Spares ps ∧ r.Spares qs := List.forall_mem_append

theorem spares_map_cons {s : Step} {ps : List (List Step)} :
    r.Spares (ps.map (s :: ·)) ↔ (r.under s).Spares ps := List.forall_mem_map

theorem spares_cons {p : List Step} {ps : List (List Step)} :
    r.Spares (p :: ps) ↔ r p = false ∧ r.Spares ps := List.forall_mem_cons

end Removal

namespace Document

variable {α : Type}

mutual

/-- Sparing all keys leaves a document as it is. -/
theorem without_of_spares {r : Removal} : ∀ {d : Document α}, r.Spares d.keys → d.without r = d
  | null, _ => rfl
  | bool _, _ => rfl
  | integer _, _ => rfl
  | real _, _ => rfl
  | text _, _ => rfl
  | list _, h => congrArg list (itemsWithout_of_spares h)
  | record _, h => congrArg record (fieldsWithout_of_spares h)

theorem itemsWithout_of_spares {r : Removal} : ∀ {i : Nat} {items : List (Document α)},
    r.Spares (itemKeys i items) → itemsWithout r i items = items
  | _, [], _ => rfl
  | i, item :: items, h => by
    rw [itemKeys, Removal.spares_append, Removal.spares_map_cons] at h
    rw [itemsWithout, without_of_spares h.1, itemsWithout_of_spares h.2]

theorem fieldsWithout_of_spares {r : Removal} : ∀ {fields : List (String × Document α)},
    r.Spares (fieldKeys fields) → fieldsWithout r fields = fields
  | [], _ => rfl
  | (name, value) :: fields, h => by
    rw [fieldKeys, List.cons_append, Removal.spares_cons, Removal.spares_append,
      Removal.spares_map_cons] at h
    obtain ⟨hname, hvalue, hfields⟩ := h
    rw [fieldsWithout, Removal.drops, hname, if_neg Bool.false_ne_true, without_of_spares hvalue,
      fieldsWithout_of_spares hfields]

end

@[simp] theorem without_nothing (d : Document α) : d.without .nothing = d :=
  without_of_spares (Removal.spares_nothing _)

theorem without_ne_null (r : Removal) {d : Document α} (h : d ≠ null) : d.without r ≠ null := by
  cases d with
  | null => exact absurd rfl h
  | _ => exact nofun

/-- What is left of a field. -/
theorem lookup_fieldsWithout (r : Removal) (fields : List (String × Document α)) (name : String) :
    (fieldsWithout r fields).lookup name =
      if r.drops name then none
      else (fields.lookup name).map (without (r.under (.key name))) := by
  induction fields with
  | nil => exact (ite_self none).symm
  | cons field fields ih =>
    obtain ⟨key, value⟩ := field
    have hne {v : Document α} {fs : List (String × Document α)} (h : name ≠ key) :
        ((key, v) :: fs).lookup name = fs.lookup name := by
      rw [List.lookup_cons, beq_false_of_ne h]
    rw [fieldsWithout]
    by_cases hkey : name = key
    · subst hkey
      rw [List.lookup_cons_self, Option.map_some]
      split_ifs with hdrops
      · rw [ih, if_pos hdrops]
      · rw [List.lookup_cons_self]
    · rw [apply_ite (List.lookup name), hne hkey, ite_self, ih, hne hkey]

end Document

end Multirotor
