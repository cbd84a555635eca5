/-!
# Data as notations write it

The tree that a JSON or a TOML text denotes. Fields of a record keep their order and may repeat,
because what a repeated or an unknown field means is up to the reader of the record.
-/

namespace LineagePorts

inductive Data where
  | null
  | bool (b : Bool)
  | int (n : Int)
  /-- The number `mantissa * 10 ^ exponent`, written with a fraction or an exponent. -/
  | real (mantissa exponent : Int)
  | text (s : String)
  | list (items : List Data)
  | record (fields : List (String × Data))
  /-- Something well written that has no value here: half a surrogate pair in a text or in a field
  name, an infinity, a number that is none. It may be passed over but not read. -/
  | garbled

namespace Data

/-- The least number that is rounded to an infinity as a double. -/
def overflow : Nat := Nat.pow 2 1024 - Nat.pow 2 970

/-- Whether a number of size `mantissa * 10 ^ exponent` is finite as a double. Far from the bound
the number of digits decides, so that no large power is computed. -/
def isFinite (mantissa : Nat) : Int → Bool
  | .ofNat e => mantissa = 0 || (e ≤ 308 && mantissa * Nat.pow 10 e < overflow)
  | .negSucc k =>
    mantissa < overflow || (Nat.toDigits 10 mantissa).length ≤ k + 1 ||
      mantissa < overflow * Nat.pow 10 (k + 1)

/-- A whole number as a double: 53 binary digits are kept, and a half goes to the even neighbour. -/
def rounded (n : Nat) : Nat :=
  let unit := Nat.pow 2 (n.log2 - 52)
  let quotient := n / unit
  let rest := n % unit
  if unit < 2 * rest || (unit = 2 * rest && quotient % 2 = 1) then (quotient + 1) * unit
  else quotient * unit

/-- Whether the product of a mantissa and a power of ten is finite when both are doubles. -/
def isFiniteProduct (mantissa : Nat) : Int → Bool
  | .ofNat e => mantissa = 0 || (e ≤ 308 && rounded mantissa * rounded (Nat.pow 10 e) < overflow)
  | .negSucc _ => true

/-- Whether a value can be set aside and read later: at most `room` lists and records inside each
other, finite numbers only, and nothing garbled. -/
def holdable : Nat → Data → Bool
  | _, .null => true
  | _, .bool _ => true
  | _, .text _ => true
  | _, .int _ => true
  | _, .real m e => isFiniteProduct m.natAbs e
  | _, .garbled => false
  | 0, .list _ => false
  | 0, .record _ => false
  | room + 1, .list items => items.all (holdable room)
  | room + 1, .record fields => fields.all (fun f => holdable room f.2)

def asText : Data → Option String
  | .text s => some s
  | _ => none

def asInt : Data → Option Int
  | .int n => some n
  | _ => none

def asList : Data → Option (List Data)
  | .list items => some items
  | _ => none

/-- A null stands for an absent value. -/
def asOption {α : Type} (read : Data → Option α) : Data → Option (Option α)
  | .null => some none
  | d => (read d).map some

def asListOf {α : Type} (read : Data → Option α) (d : Data) : Option (List α) :=
  d.asList.bind (List.mapM read)

/-- A tag and what it governs: the other fields of a record in which the field `name` stands once,
or the rest of a list after its first item. -/
def asTagged (name : String) : Data → Option (String × Data)
  | .record fields =>
    match fields.filter (fun f => f.1 = name) with
    | [(_, .text tag)] => some (tag, .record (fields.filter (fun f => f.1 ≠ name)))
    | _ => none
  | .list (.text tag :: items) => some (tag, .list items)
  | _ => none

end Data

/-- The fields that a reader knows, each at most once. -/
structure Fields where
  entries : List (String × Data)

namespace Fields

def find (f : Fields) (name : String) : Option Data :=
  (f.entries.find? (fun e => e.1 = name)).map Prod.snd

def required {α : Type} (f : Fields) (name : String) (read : Data → Option α) : Option α :=
  (f.find name).bind read

/-- A field that may be left out, in which case it has the value `other`. -/
def orElse {α : Type} (f : Fields) (name : String) (other : α) (read : Data → Option α) :
    Option α :=
  match f.find name with
  | none => some other
  | some d => read d

/-- A field that may be left out or null. -/
def optional {α : Type} (f : Fields) (name : String) (read : Data → Option α) : Option (Option α) :=
  f.orElse name none (Data.asOption read)

end Fields

/-- How a value is handed to its reader. -/
structure Reading where
  /-- How many levels of lists and records a value set aside may have, if that is limited. -/
  room : Option Nat
  /-- Whether a record given as a list may have more items than fields. -/
  spareItems : Bool
  /-- Whether the value was set aside before. -/
  held : Bool

namespace Reading

/-- Values of a JSON text open at most 127 levels where they are set aside. -/
def json : Reading := ⟨some 127, false, false⟩

def toml : Reading := ⟨none, true, false⟩

/-- The same for what stands one level deeper. -/
def deeper (r : Reading) : Reading :=
  { r with room := r.room.map (· - 1) }

def hold (r : Reading) (d : Data) : Option Reading :=
  if r.room.all (fun room => d.holdable room) then some { r with spareItems := false, held := true }
  else none

/-- The fields of a record that are called by one of `names`; the others are passed over. A list
gives the fields in the order of `names`. -/
def fields (r : Reading) (names : List String) : Data → Option Fields
  | .record fs =>
    let known := fs.filter (fun f => f.1 ∈ names)
    if (known.map Prod.fst).Nodup then some ⟨known⟩ else none
  | .list items =>
    if r.spareItems || items.length ≤ names.length then some ⟨names.zip items⟩ else none
  | _ => none

/-- One of a fixed set of names: a text, or a record with that one field, which is null. A value
that was set aside may have an empty record in place of the null. -/
def asName (r : Reading) : Data → Option String
  | .text s => some s
  | .record [(name, .null)] => some name
  | .record [(name, .record [])] => if r.held then some name else none
  | _ => none

end Reading

end LineagePorts
