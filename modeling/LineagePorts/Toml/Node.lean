import LineagePorts.Data.Basic

/-!
# The tables of a TOML document

A document names its tables by headers and by dotted keys, and a table may be named before it is
defined. A table remembers how it came about, because a table is defined once only, and one that a
header defined cannot be extended by dotted keys, nor the other way round.
-/

namespace LineagePorts.Toml

/-- How a table came about: by its own header or braces, as part of the path in a header, or as
part of a dotted key. -/
inductive Origin where
  | explicit
  | implied
  | dotted
deriving DecidableEq

inductive Node where
  | value (d : Data)
  | table (origin : Origin) (entries : List (String × Node))
  /-- The tables of a list that headers made, last first. -/
  | tables (items : List (List (String × Node)))

abbrev Entries := List (String × Node)

namespace Entries

def find? (es : Entries) (key : String) : Option Node :=
  (List.find? (fun e => e.1 = key) es).map Prod.snd

/-- Puts a node in the place of the one under `key`. -/
def replace (es : Entries) (key : String) (n : Node) : Entries :=
  es.map fun e => if e.1 = key then (key, n) else e

/-- Changes the table that a path leads to, which starts at a table of the given origin. Tables on
the way that do not exist are made, by a dotted key or by a header as `byKey` tells. Of a list of
tables the last one is entered. -/
def alter (byKey : Bool) (change : Origin → Entries → Option Entries) :
    Origin → List String → Entries → Option Entries
  | origin, [], es => change origin es
  | _, key :: path, es =>
    match find? es key with
    | none => do
      let origin := if byKey then Origin.dotted else .implied
      let inner ← alter byKey change origin path []
      return es ++ [(key, .table origin inner)]
    | some (.value _) => none
    | some (.table origin inner) =>
      if byKey && origin = .explicit then none
      else do
        let inner ← alter byKey change origin path inner
        return replace es key (.table origin inner)
    | some (.tables []) => none
    | some (.tables (last :: before)) => do
      let last ← alter byKey change .explicit path last
      return replace es key (.tables (last :: before))

/-- Adds a value under a new key. The path of a dotted key must lead through dotted keys only. -/
def addValue (path : List String) (key : String) (d : Data) (origin : Origin) (es : Entries) :
    Option Entries :=
  alter true (fun origin es =>
      if decide (origin = .dotted) == path.isEmpty then none
      else if (find? es key).isSome then none
      else some (es ++ [(key, .value d)]))
    origin path es

/-- Defines a table that was at most part of a path before. -/
def addTable (key : String) (_ : Origin) (es : Entries) : Option Entries :=
  match find? es key with
  | none => some (es ++ [(key, .table .explicit [])])
  | some (.table .implied inner) => some (replace es key (.table .explicit inner))
  | _ => none

/-- Adds a table to the list of tables under a key. -/
def addItem (key : String) (_ : Origin) (es : Entries) : Option Entries :=
  match find? es key with
  | none => some (es ++ [(key, .tables [[]])])
  | some (.tables items) => some (replace es key (.tables ([] :: items)))
  | _ => none

end Entries

mutual

def Node.toData : Node → Data
  | .value d => d
  | .table _ entries => .record (fieldsOf entries)
  | .tables items => .list (recordsOf items).reverse

def fieldsOf : List (String × Node) → List (String × Data)
  | [] => []
  | e :: es => fieldOf e :: fieldsOf es

def fieldOf : String × Node → String × Data
  | (key, n) => (key, n.toData)

def recordsOf : List (List (String × Node)) → List Data
  | [] => []
  | es :: rest => .record (fieldsOf es) :: recordsOf rest

end

/-- A line of a document that says something. -/
inductive Statement where
  | value (path : List String) (key : String) (d : Data)
  | table (path : List String) (key : String)
  | item (path : List String) (key : String)

/-- The tables so far, and the path of the table that values are added to. -/
structure Document where
  entries : Entries
  current : List String

namespace Document

def empty : Document := ⟨[], []⟩

def add (d : Document) : Statement → Option Document
  | .value path key v => do
    let entries ← d.entries.alter false (Entries.addValue path key v) .explicit d.current
    return { d with entries := entries }
  | .table path key => do
    let entries ← d.entries.alter false (Entries.addTable key) .explicit path
    return ⟨entries, path ++ [key]⟩
  | .item path key => do
    let entries ← d.entries.alter false (Entries.addItem key) .explicit path
    return ⟨entries, path ++ [key]⟩

end Document

end LineagePorts.Toml
