import LineagePorts.Text.Blank

/-!
# Port types

The direction of a port. Each direction has an ordinal and a symbolic name. A name is recognised in
any letter case, and where a text is read also with white space around.
-/

namespace LineagePorts

/-- Equality of texts up to the case of the letters A to Z. -/
def Text.sameUpToCase (a b : String) : Bool :=
  a.toList.map Char.toLower = b.toList.map Char.toLower

inductive PortType where
  | inout
  | input
  | output
  | outin
deriving DecidableEq

namespace PortType

def all : List PortType := [.inout, .input, .output, .outin]

def ordinal : PortType → UInt32
  | .inout => 0
  | .input => 1
  | .output => 2
  | .outin => 3

def symbol : PortType → String
  | .inout => "INOUT_PORT"
  | .input => "INPUT_PORT"
  | .output => "OUTPUT_PORT"
  | .outin => "OUTIN_PORT"

def hasName (t : PortType) (name : String) : Bool :=
  Text.sameUpToCase t.symbol name

/-- The port type with exactly this symbolic name. -/
def ofSymbol? (name : String) : Option PortType :=
  all.find? (fun t => t.symbol = name)

def ofText? (s : String) : Option PortType :=
  all.find? (fun t => t.hasName (String.ofList (Text.trim s.toList)))

/-- What is said of a text that names no port type. -/
def unknownMessage (s : String) : String :=
  "unknown port type '" ++ s ++ "'"

theorem mem_all (t : PortType) : t ∈ all := by
  cases t <;> simp [all]

end PortType

end LineagePorts
