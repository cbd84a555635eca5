import LineagePorts.Table
import LineagePorts.Text.Blank
import LineagePorts.Ulid

/-!
# Identifiers of stored records

Entities, relationships and external sources have identifiers of their own kind, so that they
cannot be mixed up. Each is a ULID. It is shown with a label for its kind in front, and read with
or without that label and with white space around.
-/

namespace LineagePorts

inductive IdKind where
  | entity
  | relationship
  | source
deriving DecidableEq

def IdKind.label : IdKind → String
  | .entity => "entity-"
  | .relationship => "rel-"
  | .source => "source-"

structure Id (kind : IdKind) where
  ulid : Ulid
deriving DecidableEq

abbrev EntityId := Id .entity
abbrev RelationshipId := Id .relationship
abbrev SourceId := Id .source

namespace Id

variable {kind : IdKind}

def text (id : Id kind) : String :=
  kind.label ++ id.ulid.text

/-- A text without one leading `label`, if it has that. -/
def dropLabel (label cs : List Char) : List Char :=
  if label.isPrefixOf cs then cs.drop label.length else cs

def ofText (s : String) : Except Ulid.Flaw (Id kind) :=
  (Ulid.ofText (String.ofList (dropLabel kind.label.toList (Text.trim s.toList)))).map Id.mk

theorem ext {a b : Id kind} (h : a.ulid = b.ulid) : a = b := by
  cases a
  cases b
  simpa using h

/-- Identifiers are ordered by their value, and hence by their milliseconds first. -/
instance : LT (Id kind) := ⟨fun a b => a.ulid.value < b.ulid.value⟩
instance : DecidableLT (Id kind) := fun a b => Nat.decLt a.ulid.value b.ulid.value

theorem lt_iff {a b : Id kind} : a < b ↔ a.ulid.value < b.ulid.value := Iff.rfl

instance : KeyOrder (Id kind) where
  irrefl _ := Nat.lt_irrefl _
  trans := Nat.lt_trans
  connected h k := ext (Ulid.ext (Nat.le_antisymm (Nat.not_lt.mp k) (Nat.not_lt.mp h)))

end Id

end LineagePorts
