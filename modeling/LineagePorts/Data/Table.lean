import LineagePorts.Data.Basic
import LineagePorts.Table

/-!
# Tables and numbers as data

A table with text keys is a record with a field for each key, in key order. On reading, the last of
several fields with one name counts. Numbers of a fixed width are integers within their range.
-/

namespace LineagePorts.Data

variable {α : Type}

def ofTable (write : α → Data) (t : Table String α) : Data :=
  .record (t.toList.map fun e => (e.1, write e.2))

def asTable (read : Data → Option α) : Data → Option (Table String α)
  | .record fields => do
    return Table.ofList (← fields.mapM fun f => (read f.2).map fun a => (f.1, a))
  | _ => none

def ofTextTable (t : Table String String) : Data := ofTable .text t

def asTextTable : Data → Option (Table String String) := asTable asText

def asUInt32 (d : Data) : Option UInt32 :=
  match d.asInt with
  | some (.ofNat n) => if n < 4294967296 then some (.ofNat n) else none
  | _ => none

def asUInt64 (d : Data) : Option UInt64 :=
  match d.asInt with
  | some (.ofNat n) => if n < 18446744073709551616 then some (.ofNat n) else none
  | _ => none

def asInt32 (d : Data) : Option Int32 :=
  match d.asInt with
  | some n => if -2147483648 ≤ n ∧ n ≤ 2147483647 then some (.ofInt n) else none
  | none => none

/-- A field that is left out when there is no value for it. -/
def optionalField (name : String) (write : α → Data) : Option α → List (String × Data)
  | none => []
  | some a => [(name, write a)]

end LineagePorts.Data
