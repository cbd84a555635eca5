import LineagePorts.Json.Token

/-!
# Reading JSON

The tokens of a JSON text are folded into its data. What is open is kept on a stack, so that values
may nest without limit. A record of which a field name is garbled is garbled as a whole.
-/

namespace LineagePorts.Json

/-- A list or record that is not closed yet, with what it holds so far, last first. -/
inductive Frame where
  | list (done : List Data)
  | record (done : List (String × Data)) (whole : Bool) (name : String)

/-- What may come next. -/
inductive Expect where
  | value
  | firstItem
  | firstName
  | name
  | colon
  /-- The value is complete, so that a comma, a closing mark or the end may come. -/
  | after (d : Data)

structure Builder where
  expect : Expect
  stack : List Frame

namespace Builder

def start : Builder := ⟨.value, []⟩

def closeRecord (done : List (String × Data)) (whole : Bool) : Data :=
  if whole then .record done.reverse else .garbled

def value (stack : List Frame) : Token → Option Builder
  | .openList => some ⟨.firstItem, .list [] :: stack⟩
  | .openRecord => some ⟨.firstName, .record [] true "" :: stack⟩
  | .null => some ⟨.after .null, stack⟩
  | .bool b => some ⟨.after (.bool b), stack⟩
  | .int n => some ⟨.after (.int n), stack⟩
  | .real m e => some ⟨.after (.real m e), stack⟩
  | .text s => some ⟨.after (.text s), stack⟩
  | .garbled => some ⟨.after .garbled, stack⟩
  | _ => none

def name (done : List (String × Data)) (whole : Bool) (stack : List Frame) :
    Token → Option Builder
  | .text s => some ⟨.colon, .record done whole s :: stack⟩
  | .garbled => some ⟨.colon, .record done false "" :: stack⟩
  | _ => none

def step (b : Builder) (t : Token) : Option Builder :=
  match b.expect, b.stack with
  | .value, stack => value stack t
  | .firstItem, .list done :: stack =>
    if t = .closeList then some ⟨.after (.list done.reverse), stack⟩
    else value (.list done :: stack) t
  | .firstName, .record done whole _ :: stack =>
    if t = .closeRecord then some ⟨.after (closeRecord done whole), stack⟩
    else name done whole stack t
  | .name, .record done whole _ :: stack => name done whole stack t
  | .colon, stack => if t = .colon then some ⟨.value, stack⟩ else none
  | .after d, .list done :: stack =>
    match t with
    | .comma => some ⟨.value, .list (d :: done) :: stack⟩
    | .closeList => some ⟨.after (.list (d :: done).reverse), stack⟩
    | _ => none
  | .after d, .record done whole key :: stack =>
    match t with
    | .comma => some ⟨.name, .record ((key, d) :: done) whole key :: stack⟩
    | .closeRecord => some ⟨.after (closeRecord ((key, d) :: done) whole), stack⟩
    | _ => none
  | _, _ => none

def finish : Builder → Option Data
  | ⟨.after d, []⟩ => some d
  | _ => none

end Builder

/-- The data that a JSON text denotes. -/
def read (s : String) : Option Data := do
  let ts ← tokens s.toList
  let b ← ts.foldlM Builder.step Builder.start
  b.finish

end LineagePorts.Json
