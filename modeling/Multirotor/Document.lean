/-!
# Documents

The tree of a configuration or command file over numbers of type `α`: JSON with whole numbers kept
apart from the others.  `Document.fields` and `Document.tag` give the two ways in which a value may
be laid out, a record by names or by position and an enumerator alone or as a key of nothing.
-/

namespace Multirotor

/-- A document whose numbers are whole or of type `α`. -/
inductive Document (α : Type) where
  | null
  | bool (b : Bool)
  | integer (n : Int)
  | real (x : α)
  | text (s : String)
  | list (items : List (Document α))
  | record (fields : List (String × Document α))

namespace Document

variable {α : Type}

instance : Inhabited (Document α) := ⟨null⟩

/-- The value of a key in a record. -/
def get? (key : String) : Document α → Option (Document α)
  | record fields => fields.lookup key
  | _ => none

/-- The fields of a record.  A list of at most as many items as there are names is one too and gives
the first of them by position. -/
def fields (names : List String) : Document α → Option (List (String × Document α))
  | record fields => some fields
  | list items => if items.length ≤ names.length then some (names.zip items) else none
  | _ => none

/-- The name of an enumerator, which stands alone or as the only key of a record over null. -/
def tag : Document α → Option String
  | text name => some name
  | record [(name, null)] => some name
  | _ => none

/-- The name stored under `key`, or first in a list, and what is left beside it. -/
def splitTag (key : String) : Document α → Option (String × Document α)
  | record fields =>
    match fields.lookup key with
    | some (text name) => some (name, record (fields.filter (·.1 != key)))
    | _ => none
  | list (text name :: items) => some (name, list items)
  | _ => none

end Document

/-! ## Writing

`Document.write` gives the JSON text of a document without blanks and with the keys of each record
in order.  How a number that is not whole is written is left to the caller. -/

namespace Document

/-- The digit of base sixteen. -/
def hexDigit (n : Nat) : Char := if n < 10 then Char.ofNat (48 + n) else Char.ofNat (87 + n)

/-- A character as it stands between quotes. -/
def escapeChar (c : Char) : List Char :=
  if c == '"' then ['\\', '"']
  else if c == '\\' then ['\\', '\\']
  else if c == '\n' then ['\\', 'n']
  else if c == '\r' then ['\\', 'r']
  else if c == '\t' then ['\\', 't']
  else if c.toNat < 0x20 then
    ['\\', 'u', '0', '0', hexDigit (c.toNat / 16), hexDigit (c.toNat % 16)]
  else [c]

/-- A string between quotes. -/
def quote (s : String) : String :=
  String.ofList ('"' :: s.toList.flatMap escapeChar ++ ['"'])

/-- Fields with their written values, in the order of their keys. -/
def joinFields (fields : List (String × String)) : String :=
  let sorted := fields.mergeSort fun a b => decide (a.1 ≤ b.1)
  "\x7b" ++ String.intercalate "," (sorted.map fun (key, value) => quote key ++ ":" ++ value) ++
    "\x7d"

variable {α : Type}

mutual

/-- The JSON text of a document. -/
def write (number : α → String) : Document α → String
  | null => "null"
  | bool b => if b then "true" else "false"
  | integer n => toString n
  | real x => number x
  | text s => quote s
  | list items => "[" ++ String.intercalate "," (writeItems number items) ++ "]"
  | record fields => joinFields (writeFields number fields)

/-- The texts of the items of a list. -/
def writeItems (number : α → String) : List (Document α) → List String
  | [] => []
  | item :: items => write number item :: writeItems number items

/-- The keys of a record with the texts of their values. -/
def writeFields (number : α → String) : List (String × Document α) → List (String × String)
  | [] => []
  | (key, value) :: fields => (key, write number value) :: writeFields number fields

end

end Document

end Multirotor
