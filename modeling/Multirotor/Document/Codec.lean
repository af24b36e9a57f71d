import Multirotor.Document
import Multirotor.Scalar

/-!
# Storing values in documents

`Codec α β` stores the values of `β` in documents over `α`.  Numbers accept whole numbers; words
accept nothing else, and only within their range; null stands for an absent option.  A record is read
with `required` for the fields that have to be there and with `optional` for those that fall back to
a given value.
-/

namespace Multirotor

/-- Values of `β` as documents over `α`. -/
class Codec (α β : Type) where
  encode : β → Document α
  decode : Document α → Option β

export Codec (encode decode)

namespace Document

variable {α β : Type}

/-- The field `key`, which has to be there. -/
def required [Codec α β] (fields : List (String × Document α)) (key : String) : Option β :=
  (fields.lookup key).bind decode

/-- The field `key`, or `fallback` when it is not there. -/
def optional [Codec α β] (fields : List (String × Document α)) (key : String) (fallback : β) :
    Option β :=
  match fields.lookup key with
  | some d => decode d
  | none => some fallback

end Document

namespace Codec

variable {α β : Type}

/-- A whole number as a scalar. -/
def ofInteger [Scalar α] : Int → α
  | .ofNat n => (n : α)
  | .negSucc n => -((n + 1 : Nat) : α)

instance [Scalar α] : Codec α α where
  encode := .real
  decode
    | .real x => some x
    | .integer n => some (ofInteger n)
    | _ => none

instance : Codec α Bool where
  encode := .bool
  decode
    | .bool b => some b
    | _ => none

instance : Codec α UInt64 where
  encode n := .integer (Int.ofNat n.toNat)
  decode
    | .integer n => if 0 ≤ n ∧ n < 0x10000000000000000 then some n.toNat.toUInt64 else none
    | _ => none

instance [Codec α β] : Codec α (Option β) where
  encode
    | some x => encode x
    | none => .null
  decode
    | .null => some none
    | d => (decode d).map some

instance [Codec α β] : Codec α (List β) where
  encode xs := .list (xs.map encode)
  decode
    | .list ds => ds.mapM decode
    | _ => none

/-- Four values as a list of exactly four. -/
def decodeFour [Codec α β] : Document α → Option (β × β × β × β)
  | .list [a, b, c, d] => do return (← decode a, ← decode b, ← decode c, ← decode d)
  | _ => none

/-- An enumeration stored by name. -/
@[reducible]
def ofNames [BEq β] (names : List (β × String)) : Codec α β where
  encode x := .text ((names.lookup x).getD "")
  decode d := do
    let name ← d.tag
    (names.find? (·.2 == name)).map (·.1)

end Codec

end Multirotor
