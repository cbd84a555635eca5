import LineagePorts.Proofs.Port.Data
import LineagePorts.Proofs.Store.Snapshot

/-!
# The records kept as text

A codec says which data a value is written as and which value a reader makes of data. A faithful one
loses nothing in a JSON text of either style, and a text that it has read once is read in the same
way after it was written anew. The codecs of the stored records, of the ports and of whole store
files are faithful. Nothing is said about texts that cannot be read.
-/

namespace LineagePorts

structure Codec (α : Type) where
  toData : α → Data
  ofData? : Data → Option α

namespace Codec

variable {α : Type} (c : Codec α)

def encode (style : Json.Style) (a : α) : String :=
  String.ofList (Json.write style 0 (c.toData a))

def decode? (text : String) : Option α :=
  (Json.read text).bind c.ofData?

/-- A text written anew after it was read. -/
def rewrite? (style : Json.Style) (text : String) : Option String :=
  (c.decode? text).map (c.encode style)

structure Faithful : Prop where
  lossless (style : Json.Style) (a : α) : c.decode? (c.encode style a) = some a
  /-- What a text says survives when it is written anew, and then the text stays as it is. -/
  canonical {style : Json.Style} {text again : String} (rewritten : c.rewrite? style text = some again) :
    c.decode? again = c.decode? text ∧ c.rewrite? style again = some again
  injective {style other : Json.Style} {a b : α} (same : c.encode style a = c.encode other b) : a = b

variable {c}

/-- It is enough that plain data is read back. -/
theorem faithful_of_readsBack (readsBack : ∀ a, c.ofData? (c.toData a) = some a)
    (plain : ∀ a, (c.toData a).Plain) : c.Faithful := by
  have lossless (style : Json.Style) (a : α) : c.decode? (c.encode style a) = some a := by
    rw [decode?, encode, Json.read_write (plain a), Option.bind_some, readsBack]
  constructor
  case lossless => exact lossless
  case canonical =>
    intro style text again rewritten
    obtain ⟨a, read, rfl⟩ := Option.map_eq_some_iff.mp rewritten
    constructor
    · rw [lossless, read]
    · rw [rewrite?, lossless, Option.map_some]
  case injective =>
    intro style other a b same
    have read : some a = some b := by
      rw [← lossless style a, same, lossless other b]
    exact Option.some.inj read

end Codec

def Snapshot.codec : Codec Snapshot := ⟨toData, ofData .json⟩

def Entity.codec : Codec Entity := ⟨toData, ofData .json⟩

def Relationship.codec : Codec Relationship := ⟨toData, ofData .json⟩

def PropertyValue.codec : Codec PropertyValue := ⟨toData, ofData .json⟩

def Port.codec : Codec Port := ⟨toData, ofData .json⟩

def PortImplementation.codec : Codec PortImplementation := ⟨toData, ofData .json⟩

def PortAlias.codec : Codec PortAlias := ⟨toData, ofData .json⟩

theorem stored_records_faithful :
    Snapshot.codec.Faithful ∧ Snapshot.codec.encode .pretty = Snapshot.fileText ∧
      Snapshot.codec.decode? = Snapshot.ofFileText? ∧
      Port.codec.Faithful ∧ PortImplementation.codec.Faithful ∧ PortAlias.codec.Faithful ∧
      Entity.codec.Faithful ∧ Relationship.codec.Faithful ∧ PropertyValue.codec.Faithful := by
  refine ⟨?snapshot, rfl, rfl, ?port, ?implementation, ?forwarding, ?entity, ?relationship, ?value⟩
  case snapshot => exact Codec.faithful_of_readsBack (Snapshot.ofData_toData _) Snapshot.plain_toData
  case port => exact Codec.faithful_of_readsBack (Port.ofData_toData · _) Port.plain_toData
  case implementation =>
    exact Codec.faithful_of_readsBack (PortImplementation.ofData_toData (by decide))
      fun p => p.port.plain_toData
  case forwarding =>
    exact Codec.faithful_of_readsBack (PortAlias.ofData_toData · (by decide)) PortAlias.plain_toData
  case entity => exact Codec.faithful_of_readsBack (Entity.ofData_toData _) Entity.plain_toData
  case relationship =>
    exact Codec.faithful_of_readsBack (Relationship.ofData_toData _) Relationship.plain_toData
  case value =>
    exact Codec.faithful_of_readsBack (PropertyValue.ofData_toData _) PropertyValue.plain_toData

end LineagePorts
