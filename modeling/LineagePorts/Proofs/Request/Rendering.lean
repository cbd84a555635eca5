import LineagePorts.Proofs.Data.Fields
import LineagePorts.Proofs.Entity.Data
import LineagePorts.Request.Basic

/-!
# How a request may be written

A request is a record with a tag and the fields of its operation, in any order and among fields with
other names. Every such record is read as that request. The record is set aside on the way, tag and all,
so that what stands in the further fields must be something that can be set aside: finite numbers and
whole texts, nested not too deep.
-/

namespace LineagePorts

/-- One of a fixed set of names is a text, or a record with that one field. -/
inductive RendersName (name : String) : Data → Prop where
  | text : RendersName name (.text name)
  | record : RendersName name (.record [(name, .null)])

/-- A table may list its entries in any order. It may be left out when it is empty. -/
inductive RendersTable (field : String) (t : Table String String) : List (String × Data) → Prop where
  | leftOut (nothing : t = .empty) : RendersTable field t []
  | given (es : List (String × String)) (entries : Table.ofList es = t) :
      RendersTable field t [(field, .record (es.map fun e => (e.1, .text e.2)))]

/-- A text that may be absent is then left out or null. -/
inductive RendersOptional (field : String) : Option String → List (String × Data) → Prop where
  | leftOut : RendersOptional field none []
  | null : RendersOptional field none [(field, .null)]
  | given (s : String) : RendersOptional field (some s) [(field, .text s)]

namespace Port

def fieldNames : List String :=
  ["qualified_name", "display_name", "port_type", "additional_properties"]

def requiredNames : List String := ["qualified_name", "display_name", "port_type"]

inductive Renders (Allowed : Data → Prop) (p : Port) : Data → Prop where
  | record {type : Data} {additional fs : List (String × Data)}
      (typed : RendersName p.portType.symbol type)
      (properties : RendersTable "additional_properties" p.additionalProperties additional)
      (arranged : Data.Arranges fieldNames Allowed
        ([("qualified_name", .text p.qualifiedName), ("display_name", .text p.displayName),
          ("port_type", type)] ++ additional) fs) : Renders Allowed p (.record fs)

end Port

namespace Request

def operations : List String :=
  ["create_process", "create_schema_type", "create_port", "update_port", "add_schema",
   "add_delegation", "remove_port", "find_port"]

/-- The names of the fields of an operation. -/
def fieldNames : String → List String
  | "create_port" => ["kind", "process", "port", "delegates_to"]
  | "update_port" => ["kind", "port"]
  | "add_schema" => ["port", "schema_type"]
  | "add_delegation" => ["port", "port_type", "delegates_to"]
  | _ => ["qualified_name"]

/-- Only the target of a new port may be left out. -/
def requiredNames : String → List String
  | "create_port" => ["kind", "process", "port"]
  | operation => fieldNames operation

/-- The fields of a request without its tag. -/
inductive RendersFields (Allowed : Data → Prop) : Request → List (String × Data) → Prop where
  | createProcess (name : String) :
      RendersFields Allowed (.createProcess name) [("qualified_name", .text name)]
  | createSchemaType (name : String) :
      RendersFields Allowed (.createSchemaType name) [("qualified_name", .text name)]
  | createPort {kind : PortKind} {process : String} {port : Port} {delegatesTo : Option String}
      {kindData portData : Data} {target : List (String × Data)}
      (isKind : RendersName kind.symbol kindData) (isPort : port.Renders Allowed portData)
      (isTarget : RendersOptional "delegates_to" delegatesTo target) :
      RendersFields Allowed (.createPort kind process port delegatesTo)
        ([("kind", kindData), ("process", .text process), ("port", portData)] ++ target)
  | updatePort {kind : PortKind} {port : Port} {kindData portData : Data}
      (isKind : RendersName kind.symbol kindData) (isPort : port.Renders Allowed portData) :
      RendersFields Allowed (.updatePort kind port) [("kind", kindData), ("port", portData)]
  | addSchema (port schemaType : String) :
      RendersFields Allowed (.addSchema port schemaType)
        [("port", .text port), ("schema_type", .text schemaType)]
  | addDelegation (port : String) {portType : PortType} (delegatesTo : String) {typeData : Data}
      (isType : RendersName portType.symbol typeData) :
      RendersFields Allowed (.addDelegation port portType delegatesTo)
        [("port", .text port), ("port_type", typeData), ("delegates_to", .text delegatesTo)]
  | removePort (name : String) :
      RendersFields Allowed (.removePort name) [("qualified_name", .text name)]
  | findPort (name : String) :
      RendersFields Allowed (.findPort name) [("qualified_name", .text name)]

inductive Renders (Allowed : Data → Prop) (request : Request) : Data → Prop where
  | record {own fs : List (String × Data)} (fields : RendersFields Allowed request own)
      (arranged : Data.Arranges ("op" :: fieldNames request.operation) Allowed
        (("op", .text request.operation) :: own) fs) : Renders Allowed request (.record fs)

/-- A JSON text of a list of records, one for each request. -/
def RendersBatch (Allowed : Data → Prop) (requests : List Request) (text : String) : Prop :=
  ∃ ds, List.Forall₂ (Renders Allowed) requests ds ∧ Json.Denotes text (.list ds)

end Request

/-- What may stand in a further field: less than 100 levels of lists and records inside each other,
finite numbers and whole texts. -/
def Data.Passable (d : Data) : Prop := d.depth < 100 ∧ d.Representable

section Reading

variable {name : String} {d : Data}

theorem RendersName.asName (renders : RendersName name d) (r : Reading) :
    r.asName d = some name := by
  cases renders <;> rfl

theorem PortType.ofData_of_renders {t : PortType} (renders : RendersName t.symbol d)
    (r : Reading) : ofData r d = some t := by
  rw [ofData, renders.asName, Option.bind_some]
  cases t <;> rfl

theorem PortKind.ofData_of_renders {k : PortKind} (renders : RendersName k.symbol d)
    (r : Reading) : ofData r d = some k := by
  rw [ofData, renders.asName, Option.bind_some]
  cases k <;> rfl

theorem Port.ofData_of_renders {Allowed : Data → Prop} {p : Port} (renders : p.Renders Allowed d)
    (r : Reading) : ofData r d = some p := by
  cases renders with
  | record typed properties arranged =>
    obtain ⟨qualifiedName, displayName, portType, table⟩ := p
    have type := PortType.ofData_of_renders typed r
    obtain ⟨f, read, same⟩ := arranged.fields_find
      (by cases properties <;> simp [fieldNames]) (by cases properties <;> simp) r
    rw [fieldNames] at read
    rw [ofData, read]
    simp only [Fields.required, Fields.orElse, same, Option.bind_eq_bind, Option.bind_some]
    cases properties with
    | leftOut nothing =>
      subst nothing
      simp [Fields.find, type, Data.asText]
    | given es entries =>
      subst entries
      simp [Fields.find, type, Data.asText, Data.asTextTable_map]

namespace Request

variable {Allowed : Data → Prop} {request : Request} {own fs : List (String × Data)}

theorem RendersFields.known (fields : RendersFields Allowed request own) :
    (∀ f ∈ own, f.1 ∈ fieldNames request.operation) ∧ (∀ f ∈ own, f.1 ≠ "op") ∧
      (own.map Prod.fst).Nodup := by
  cases fields with
  | createPort isKind isPort isTarget =>
    cases isTarget <;> simp [operation, fieldNames]
  | _ => simp [operation, fieldNames]

/-- The fields of each operation are read under the names that its reader knows. -/
theorem ofFields_of_renders (fields : RendersFields Allowed request own)
    (arranged : Data.Arranges (fieldNames request.operation) Allowed own fs) (r : Reading) :
    ofFields r request.operation (.record fs) = some request := by
  obtain ⟨isKnown, -, distinct⟩ := fields.known
  obtain ⟨f, read, same⟩ := arranged.fields_find isKnown distinct r
  have named {make : String → Request} {name : String}
      (read : r.fields ["qualified_name"] (.record fs) = some f)
      (found : f.find "qualified_name" = some (.text name)) :
      named r make (.record fs) = some (make name) := by
    simp [Request.named, read, Fields.required, found, Data.asText]
  cases fields with
  | createProcess name => exact named read (same _)
  | createSchemaType name => exact named read (same _)
  | createPort isKind isPort isTarget =>
    show createPortOfData r (.record fs) = _
    have read : r.fields ["kind", "process", "port", "delegates_to"] (.record fs) = some f := read
    rw [createPortOfData, read]
    simp only [Option.bind_eq_bind, Option.bind_some, Fields.required, Fields.optional,
      Fields.orElse, same]
    cases isTarget <;>
      simp [Fields.find, PortKind.ofData_of_renders isKind, Port.ofData_of_renders isPort,
        Data.asText, Data.asOption]
  | updatePort isKind isPort =>
    show updatePortOfData r (.record fs) = _
    have read : r.fields ["kind", "port"] (.record fs) = some f := read
    rw [updatePortOfData, read]
    simp only [Option.bind_eq_bind, Option.bind_some, Fields.required, same]
    simp [Fields.find, PortKind.ofData_of_renders isKind, Port.ofData_of_renders isPort]
  | addSchema port schemaType =>
    show addSchemaOfData r (.record fs) = _
    have read : r.fields ["port", "schema_type"] (.record fs) = some f := read
    rw [addSchemaOfData, read]
    simp only [Option.bind_eq_bind, Option.bind_some, Fields.required, same]
    simp [Fields.find, Data.asText]
  | addDelegation port delegatesTo isType =>
    show addDelegationOfData r (.record fs) = _
    have read : r.fields ["port", "port_type", "delegates_to"] (.record fs) = some f := read
    rw [addDelegationOfData, read]
    simp only [Option.bind_eq_bind, Option.bind_some, Fields.required, same]
    simp [Fields.find, PortType.ofData_of_renders isType, Data.asText]
  | removePort name => exact named read (same _)
  | findPort name => exact named read (same _)

end Request

end Reading

section Room

variable {name : String} {d : Data} {own fs : List (String × Data)}

theorem RendersName.holdable (renders : RendersName name d) (room : Nat) :
    d.holdable (room + 1) = true := by
  cases renders <;> simp [Data.holdable]

theorem RendersTable.holdable {t : Table String String} (renders : RendersTable name t own)
    (room : Nat) : ∀ f ∈ own, f.2.holdable (room + 1) = true := by
  cases renders <;> simp [Data.holdable]

theorem RendersOptional.holdable {s : Option String} (renders : RendersOptional name s own)
    (room : Nat) : ∀ f ∈ own, f.2.holdable room = true := by
  cases renders <;> simp [Data.holdable]

theorem Data.Passable.holdable (passable : d.Passable) {room : Nat} (enough : 99 ≤ room) :
    d.holdable room = true :=
  d.holdable_of_depth_le passable.2 room (Nat.le_trans (Nat.le_of_lt_succ passable.1) enough)

theorem Data.Arranges.holdable {known : List String} (arranged : Arranges known Passable own fs)
    {room : Nat} (enough : 99 ≤ room) (fits : ∀ f ∈ own, f.2.holdable room = true) :
    (record fs).holdable (room + 1) = true := by
  obtain ⟨further, perm, others⟩ := arranged
  rw [Data.holdable, List.all_eq_true]
  intro f mem
  rcases List.mem_append.mp (perm.mem_iff.mp mem) with mem | mem
  · exact fits f mem
  · exact (others f mem).2.holdable enough

theorem Port.holdable_of_renders {p : Port} (renders : p.Renders Data.Passable d) {room : Nat}
    (enough : 99 ≤ room) : d.holdable (room + 1) = true := by
  cases renders with
  | record typed properties arranged =>
    obtain ⟨room, rfl⟩ := Nat.exists_eq_add_of_le' (Nat.le_trans (by decide : 1 ≤ 99) enough)
    refine arranged.holdable enough fun f mem => ?_
    rcases List.mem_append.mp mem with mem | mem
    · simp only [List.mem_cons, List.not_mem_nil, or_false] at mem
      rcases mem with rfl | rfl | rfl
      · simp [Data.holdable]
      · simp [Data.holdable]
      · exact typed.holdable room
    · exact properties.holdable room f mem

namespace Request

variable {request : Request}

theorem RendersFields.holdable (fields : RendersFields Data.Passable request own) {room : Nat}
    (enough : 99 ≤ room) : ∀ f ∈ own, f.2.holdable (room + 1) = true := by
  cases fields with
  | createPort isKind isPort isTarget =>
    have target := isTarget.holdable (room + 1)
    simpa [Data.holdable, isKind.holdable, Port.holdable_of_renders isPort enough] using target
  | updatePort isKind isPort =>
    simp [isKind.holdable, Port.holdable_of_renders isPort enough]
  | addDelegation port delegatesTo isType => simp [Data.holdable, isType.holdable]
  | _ => simp [Data.holdable]

end Request

end Room

namespace Request

variable {request : Request} {d : Data}

theorem ofData_of_renders (renders : request.Renders Data.Passable d) {r : Reading}
    (enough : r.room.all (101 ≤ ·)) : ofData r d = some request := by
  cases renders with
  | @record own fs fields arranged =>
    have held : r.hold (.record fs) = some { r with spareItems := false, held := true } := by
      refine Reading.hold_of_holdable 101 ?_ enough
      rintro (_ | _ | room) needed
      · omega
      · omega
      · refine arranged.holdable (by omega) fun f mem => ?_
        rcases List.mem_cons.mp mem with rfl | mem
        · simp [Data.holdable]
        · exact fields.holdable (by omega) f mem
    obtain ⟨tagged, others⟩ := arranged.asTagged fields.known.2.1
    rw [ofData, held]
    simp only [Option.bind_eq_bind, Option.bind_some, tagged]
    exact ofFields_of_renders fields others _

/-- Whatever text renders a batch of requests is read as these requests. -/
theorem readBatch_of_renders {requests : List Request} {text : String}
    (renders : RendersBatch Data.Passable requests text) : readBatch text = some requests := by
  obtain ⟨ds, rendered, denotes⟩ := renders
  rw [readBatch, Json.read_of_denotes denotes, Option.bind_some, batchOfData, Data.asListOf,
    Data.asList, Option.bind_some]
  clear denotes
  induction rendered with
  | nil => rfl
  | cons first rest ih =>
    rw [List.mapM_cons, ofData_of_renders first (by decide), ih]
    rfl

end Request

end LineagePorts
