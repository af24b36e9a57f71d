import Multirotor.Document
import Multirotor.Scalar

/-!
# Reading documents

`Document.parse` reads the JSON text of one document.  A number without point and exponent is
whole, except that a negative zero keeps its sign as a number of type `α`; a number that rounds to
infinity is refused.  Of a key given twice the last value counts.

Each reader takes the characters that are left and returns its result with those that follow it.
Nesting is bounded by the length of the text.
-/

namespace Multirotor.Document.Reader

variable {α : Type} [Scalar α]

/-- A blank of the grammar. -/
def isBlank (c : Char) : Bool := c == ' ' || c == '\t' || c == '\n' || c == '\r'

/-- The text after its leading blanks. -/
def skipBlanks (cs : List Char) : List Char := cs.dropWhile isBlank

/-- The text after `word`. -/
def expect (word : String) (cs : List Char) : Option (List Char) :=
  if word.toList.isPrefixOf cs then some (cs.drop word.length) else none

/-- The value of a digit of base ten or sixteen. -/
def digitValue (c : Char) : Nat :=
  if c.isDigit then c.toNat - '0'.toNat
  else if c.isLower then c.toNat - 'a'.toNat + 10
  else c.toNat - 'A'.toNat + 10

/-- The number written by digits of the given base. -/
def numeral (base : Nat) (ds : List Char) : Nat := ds.foldl (fun n c => base * n + digitValue c) 0

/-- The digits at the front. -/
def digits (cs : List Char) : List Char × List Char := cs.span Char.isDigit

/-- The places after a point; a point without any is refused. -/
def fraction : List Char → Option (Option (List Char) × List Char)
  | '.' :: cs =>
    let (ds, rest) := digits cs
    if ds.isEmpty then none else some (some ds, rest)
  | cs => some (none, cs)

/-- An exponent with its sign; a mark without digits is refused.  An exponent beyond six digits is
cut to one that is as good as infinite. -/
def exponent (cs : List Char) : Option (Option Int × List Char) :=
  let read (negative : Bool) (cs : List Char) : Option (Option Int × List Char) :=
    let (ds, rest) := digits cs
    if ds.isEmpty then none
    else
      let n := min (numeral 10 ds) 100000
      some (some (if negative then -Int.ofNat n else Int.ofNat n), rest)
  match cs with
  | c :: rest =>
    if c == 'e' || c == 'E' then
      match rest with
      | '-' :: rest => read true rest
      | '+' :: rest => read false rest
      | rest => read false rest
    else some (none, cs)
  | [] => some (none, cs)

/-- The number `mantissa · 10 ^ exponent`, rounded once. -/
def scaled (mantissa : Nat) (exponent : Int) : α :=
  if 0 ≤ exponent then OfScientific.ofScientific mantissa false exponent.toNat
  else OfScientific.ofScientific mantissa true (-exponent).toNat

/-- A number without its sign. -/
def unsignedNumber (negative : Bool) (cs : List Char) : Option (Document α × List Char) := do
  let (whole, cs) := digits cs
  if whole.isEmpty || (whole.length > 1 && whole.head? == some '0') then none
  let (places, cs) ← fraction cs
  let (power, cs) ← exponent cs
  match places, power with
  | none, none =>
    let n := numeral 10 whole
    if negative && n == 0 then some (real (-0), cs)
    else some (integer (if negative then -Int.ofNat n else Int.ofNat n), cs)
  | places, power =>
    let places := places.getD []
    let x : α := scaled (numeral 10 (whole ++ places)) (power.getD 0 - Int.ofNat places.length)
    if Scalar.isFinite x then some (real (if negative then -x else x), cs) else none

/-- A number. -/
def number : List Char → Option (Document α × List Char)
  | '-' :: cs => unsignedNumber true cs
  | cs => unsignedNumber false cs

/-- Four digits of base sixteen. -/
def codeUnit : List Char → Option (Nat × List Char)
  | a :: b :: c :: d :: rest =>
    let isHex (c : Char) : Bool := c.isDigit || ('a' ≤ c && c ≤ 'f') || ('A' ≤ c && c ≤ 'F')
    if [a, b, c, d].all isHex then some (numeral 16 [a, b, c, d], rest) else none
  | _ => none

/-- The character of an escape by number; a character outside the basic plane takes a pair. -/
def escapedUnit (cs : List Char) : Option (Char × List Char) := do
  let (high, cs) ← codeUnit cs
  if 0xD800 ≤ high && high ≤ 0xDBFF then
    match cs with
    | '\\' :: 'u' :: cs =>
      let (low, cs) ← codeUnit cs
      if 0xDC00 ≤ low && low ≤ 0xDFFF then
        some (Char.ofNat (0x10000 + (high - 0xD800) * 0x400 + (low - 0xDC00)), cs)
      else none
    | _ => none
  else if 0xDC00 ≤ high && high ≤ 0xDFFF then none
  else some (Char.ofNat high, cs)

/-- The character of an escape by letter. -/
def escapedLetter : Char → Option Char
  | '"' => some '"'
  | '\\' => some '\\'
  | '/' => some '/'
  | 'b' => some '\x08'
  | 'f' => some '\x0c'
  | 'n' => some '\n'
  | 'r' => some '\r'
  | 't' => some '\t'
  | _ => none

/-- The rest of a string after its opening quote, with what was read of it so far in reverse. -/
def stringTail : (fuel : Nat) → (read : List Char) → List Char → Option (String × List Char)
  | 0, _, _ => none
  | _ + 1, _, [] => none
  | fuel + 1, read, c :: cs =>
    if c == '"' then some (String.ofList read.reverse, cs)
    else if c == '\\' then
      match cs with
      | 'u' :: cs => do
        let (c, cs) ← escapedUnit cs
        stringTail fuel (c :: read) cs
      | c :: cs => do
        let c ← escapedLetter c
        stringTail fuel (c :: read) cs
      | [] => none
    else if c.toNat < 0x20 then none
    else stringTail fuel (c :: read) cs

/-- A quoted string. -/
def string : List Char → Option (String × List Char)
  | '"' :: cs => stringTail (cs.length + 1) [] cs
  | _ => none

/-- The fields with the last value for `key`. -/
def putField (fields : List (String × Document α)) (key : String) (value : Document α) :
    List (String × Document α) :=
  fields.filter (·.1 != key) ++ [(key, value)]

mutual

/-- A document of nesting below `fuel`. -/
def document (fuel : Nat) (cs : List Char) : Option (Document α × List Char) :=
  match fuel with
  | 0 => none
  | fuel + 1 =>
    match skipBlanks cs with
    | 'n' :: _ => (expect "null" (skipBlanks cs)).map (null, ·)
    | 't' :: _ => (expect "true" (skipBlanks cs)).map (bool true, ·)
    | 'f' :: _ => (expect "false" (skipBlanks cs)).map (bool false, ·)
    | '"' :: rest => (string ('"' :: rest)).map fun (s, rest) => (text s, rest)
    | '[' :: rest =>
      match skipBlanks rest with
      | ']' :: rest => some (list [], rest)
      | rest => items fuel [] rest
    | '\x7b' :: rest =>
      match skipBlanks rest with
      | '\x7d' :: rest => some (record [], rest)
      | rest => fieldsTail fuel [] rest
    | rest => number rest

/-- The items of a list from the next one on, with those before it in reverse. -/
def items (fuel : Nat) (read : List (Document α)) (cs : List Char) :
    Option (Document α × List Char) :=
  match fuel with
  | 0 => none
  | fuel + 1 => do
    let (item, cs) ← document fuel cs
    match skipBlanks cs with
    | ',' :: cs => items fuel (item :: read) cs
    | ']' :: cs => some (list (item :: read).reverse, cs)
    | _ => none

/-- The fields of a record from the next one on, with those before it. -/
def fieldsTail (fuel : Nat) (read : List (String × Document α)) (cs : List Char) :
    Option (Document α × List Char) :=
  match fuel with
  | 0 => none
  | fuel + 1 => do
    let (key, cs) ← string (skipBlanks cs)
    let cs ← expect ":" (skipBlanks cs)
    let (value, cs) ← document fuel cs
    match skipBlanks cs with
    | ',' :: cs => fieldsTail fuel (putField read key value) cs
    | '\x7d' :: cs => some (record (putField read key value), cs)
    | _ => none

end

end Reader

/-- The document of a text, which holds nothing else. -/
def parse {α : Type} [Scalar α] (source : String) : Option (Document α) :=
  let cs := source.toList
  match Reader.document (2 * cs.length + 2) cs with
  | some (d, rest) => if (Reader.skipBlanks rest).isEmpty then some d else none
  | none => none

end Multirotor.Document
