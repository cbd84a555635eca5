import LineagePorts.CommandLine.Program
import LineagePorts.Proofs.Request.Rendering

/-!
# Batches are read as a whole

A text that renders a batch of requests is read as exactly these requests. One element that is no
request makes the whole text unreadable, whatever stands beside it, and then a run of the program prints
no line and leaves the disk as it was.
-/

namespace LineagePorts

theorem Fields.isSome_find_of_required {α : Type} {f : Fields} {name : String}
    {read : Data → Option α} {a : α} (found : f.required name read = some a) :
    (f.find name).isSome = true := by
  obtain ⟨value, given, -⟩ := Option.bind_eq_some_iff.mp found
  rw [given]
  rfl

/-- What was read as a port has every required field. -/
theorem Port.found_of_ofData {r : Reading} {d : Data} {p : Port} (read : ofData r d = some p) :
    ∃ f, r.fields fieldNames d = some f ∧ ∀ name ∈ requiredNames, (f.find name).isSome = true := by
  simp only [ofData, Option.bind_eq_bind, Option.bind_eq_some_iff] at read
  obtain ⟨f, fields, _, qualifiedName, _, displayName, _, type, -⟩ := read
  refine ⟨f, fields, ?_⟩
  simp [requiredNames, Fields.isSome_find_of_required qualifiedName,
    Fields.isSome_find_of_required displayName, Fields.isSome_find_of_required type]

namespace Request

/-- An element that is no request: its operation is not given once or is unknown, or a field of the
operation, or of the port in it, is missing or given twice. -/
inductive Unacceptable (d : Data) : Prop where
  | tag (flawed : d.Flawed ["op"] ["op"])
  | unknown {value : Data} (given : ("op", value) ∈ d.fieldsUnder ["op"])
      (isUnknown : ∀ operation ∈ operations, value ≠ .text operation)
  | fields {operation : String} {rest : Data} (tagged : d.Tagged "op" operation rest)
      (flawed : rest.Flawed (fieldNames operation) (requiredNames operation))
  | port {operation : String} {rest port : Data} (tagged : d.Tagged "op" operation rest)
      (withPort : operation ∈ ["create_port", "update_port"])
      (given : ("port", port) ∈ rest.fieldsUnder (fieldNames operation))
      (flawed : port.Flawed Port.fieldNames Port.requiredNames)

section Found

variable {r : Reading} {d : Data} {request : Request}

/-- What was found when a request of this operation was read from its other fields. -/
structure Found (r : Reading) (operation : String) (d : Data) : Prop where
  isKnown : operation ∈ operations
  fields : ∃ f, r.fields (fieldNames operation) d = some f ∧
    (∀ name ∈ requiredNames operation, (f.find name).isSome = true) ∧
    (operation ∈ ["create_port", "update_port"] →
      ∃ data port, f.find "port" = some data ∧ Port.ofData r data = some port)

theorem found_of_named {make : String → Request} {operation : String}
    (read : named r make d = some request) (isKnown : operation ∈ operations)
    (only : fieldNames operation = ["qualified_name"])
    (required : requiredNames operation = ["qualified_name"])
    (noPort : operation ∉ ["create_port", "update_port"]) : Found r operation d where
  isKnown := isKnown
  fields := by
    simp only [named, Option.bind_eq_bind, Option.bind_eq_some_iff] at read
    obtain ⟨f, fields, _, name, -⟩ := read
    rw [only, required]
    refine ⟨f, fields, ?_, fun withPort => absurd withPort noPort⟩
    simp [Fields.isSome_find_of_required name]

theorem found_of_createPort (read : createPortOfData r d = some request) :
    Found r "create_port" d where
  isKnown := by decide
  fields := by
    simp only [createPortOfData, Option.bind_eq_bind, Option.bind_eq_some_iff] at read
    obtain ⟨f, fields, _, kind, _, process, port, isPort, -⟩ := read
    obtain ⟨data, given, readPort⟩ := Option.bind_eq_some_iff.mp isPort
    refine ⟨f, fields, ?_, fun _ => ⟨data, port, given, readPort⟩⟩
    simp [requiredNames, Fields.isSome_find_of_required kind,
      Fields.isSome_find_of_required process, given]

theorem found_of_updatePort (read : updatePortOfData r d = some request) :
    Found r "update_port" d where
  isKnown := by decide
  fields := by
    simp only [updatePortOfData, Option.bind_eq_bind, Option.bind_eq_some_iff] at read
    obtain ⟨f, fields, _, kind, port, isPort, -⟩ := read
    obtain ⟨data, given, readPort⟩ := Option.bind_eq_some_iff.mp isPort
    refine ⟨f, fields, ?_, fun _ => ⟨data, port, given, readPort⟩⟩
    simp [requiredNames, fieldNames, Fields.isSome_find_of_required kind, given]

theorem found_of_addSchema (read : addSchemaOfData r d = some request) :
    Found r "add_schema" d where
  isKnown := by decide
  fields := by
    simp only [addSchemaOfData, Option.bind_eq_bind, Option.bind_eq_some_iff] at read
    obtain ⟨f, fields, _, port, _, schemaType, -⟩ := read
    refine ⟨f, fields, ?_, fun withPort => absurd withPort (by decide)⟩
    simp [requiredNames, fieldNames, Fields.isSome_find_of_required port,
      Fields.isSome_find_of_required schemaType]

theorem found_of_addDelegation (read : addDelegationOfData r d = some request) :
    Found r "add_delegation" d where
  isKnown := by decide
  fields := by
    simp only [addDelegationOfData, Option.bind_eq_bind, Option.bind_eq_some_iff] at read
    obtain ⟨f, fields, _, port, _, type, _, target, -⟩ := read
    refine ⟨f, fields, ?_, fun withPort => absurd withPort (by decide)⟩
    simp [requiredNames, fieldNames, Fields.isSome_find_of_required port,
      Fields.isSome_find_of_required type, Fields.isSome_find_of_required target]

theorem found_of_ofFields {operation : String} (read : ofFields r operation d = some request) :
    Found r operation d := by
  rw [ofFields] at read
  split_ifs at read with process schemaType create update schema delegation remove find
  · subst process
    exact found_of_named read (by decide) rfl rfl (by decide)
  · subst schemaType
    exact found_of_named read (by decide) rfl rfl (by decide)
  · subst create
    exact found_of_createPort read
  · subst update
    exact found_of_updatePort read
  · subst schema
    exact found_of_addSchema read
  · subst delegation
    exact found_of_addDelegation read
  · subst remove
    exact found_of_named read (by decide) rfl rfl (by decide)
  · subst find
    exact found_of_named read (by decide) rfl rfl (by decide)

theorem nodup_fieldNames {operation : String} (isKnown : operation ∈ operations) :
    (fieldNames operation).Nodup := by
  have all : ∀ operation ∈ operations, (fieldNames operation).Nodup := by decide
  exact all operation isKnown

theorem ofData_eq_none_of_unacceptable (unacceptable : Unacceptable d) (r : Reading) :
    ofData r d = none := by
  by_contra isRead
  obtain ⟨request, read⟩ := Option.ne_none_iff_exists'.mp isRead
  simp only [ofData, Option.bind_eq_bind, Option.bind_eq_some_iff] at read
  obtain ⟨held, -, ⟨operation, rest⟩, isTagged, fields⟩ := read
  obtain ⟨isKnown, f, given, required, port⟩ := found_of_ofFields fields
  have distinct := nodup_fieldNames isKnown
  cases unacceptable with
  | tag flawed => exact Data.not_flawed_of_asTagged isTagged flawed
  | unknown given isUnknown =>
    exact isUnknown operation isKnown (Data.eq_of_asTagged isTagged given)
  | fields tagged flawed =>
    obtain ⟨rfl, rfl⟩ := tagged.eq_of_asTagged isTagged
    exact Reading.not_flawed distinct given required flawed
  | port tagged withPort portGiven flawed =>
    obtain ⟨rfl, rfl⟩ := tagged.eq_of_asTagged isTagged
    obtain ⟨data, p, found, readPort⟩ := port withPort
    have named : "port" ∈ fieldNames operation := by
      simp only [List.mem_cons, List.not_mem_nil, or_false] at withPort
      rcases withPort with rfl | rfl <;> decide
    have same := Reading.find_of_mem_fieldsUnder distinct given named portGiven
    obtain rfl : data = _ := Option.some.inj (found.symm.trans same)
    obtain ⟨g, portFields, portRequired⟩ := Port.found_of_ofData readPort
    exact Reading.not_flawed (by decide) portFields portRequired flawed

/-- One element that cannot be read makes the batch unreadable. -/
theorem readBatch_eq_none {text : String} {items : List Data}
    (list : Json.read text = some (.list items)) (mem : d ∈ items) (unacceptable : Unacceptable d) :
    readBatch text = none := by
  rw [readBatch, list, Option.bind_some, batchOfData, Data.asListOf, Data.asList, Option.bind_some]
  clear list
  induction items with
  | nil => cases mem
  | cons item items ih =>
    rw [List.mapM_cons]
    rcases List.mem_cons.mp mem with rfl | mem
    · rw [ofData_eq_none_of_unacceptable unacceptable]
      rfl
    · rw [ih mem]
      cases ofData Reading.json.deeper item <;> rfl

end Found

/-- Every text that renders a batch is read as that batch, and a text of a list with an element that is
no request is read as no batch at all, so that a run that is given it applies nothing. -/
theorem batch_read_from_any_rendering :
    (∀ {requests : List Request} {text : String}, RendersBatch Data.Passable requests text →
      readBatch text = some requests) ∧
    ∀ {text : String} {items : List Data} {d : Data}, Json.read text = some (.list items) →
      d ∈ items → Unacceptable d →
      readBatch text = none ∧
        ∀ (s : CommandLine.Session) {path : String} {disk : FileSystem},
          disk.read path = .ok text → ∀ supply : CommandLine.Supply,
            CommandLine.apply s path disk supply = ⟨[], some .unreadableBatch, disk⟩ := by
  refine ⟨readBatch_of_renders, fun list mem unacceptable => ?_⟩
  have unreadable := readBatch_eq_none list mem unacceptable
  refine ⟨unreadable, fun s path disk given supply => ?_⟩
  rw [CommandLine.apply, given]
  dsimp only
  rw [unreadable]

/-- A new alias, written with its fields in reverse order and with more fields in it and in its
port. -/
def reversedCreation : Data :=
  let port : Data := .record [
    ("qualified_name", .text "a"), ("display_name", .text "A"),
    ("port_type", .record [("INPUT_PORT", .null)]), ("additional_properties", .record []),
    ("note", .list [.list []])].reverse
  .record [
    ("op", .text "create_port"), ("kind", .text "alias"), ("process", .text "p"), ("port", port),
    ("delegates_to", .null), ("qualified_name", .int 7)].reverse

theorem renders_reversedCreation :
    Renders Data.Passable (.createPort .alias "p" (.plain "a" "A" .input) none)
      reversedCreation := by
  have note : Data.Passable (.list [.list []]) := ⟨by decide, trivial, trivial⟩
  have number : Data.Passable (.int 7) := ⟨by decide, trivial⟩
  have isPort : (Port.plain "a" "A" .input).Renders Data.Passable _ :=
    .record .record (.given [] rfl)
      ⟨[("note", .list [.list []])], List.reverse_perm _, by simp [Port.fieldNames, note]⟩
  exact .record (.createPort .text isPort .null)
    ⟨[("qualified_name", .int 7)], List.reverse_perm _, by simp [operation, fieldNames, number]⟩

theorem plain_reversedCreation : reversedCreation.Plain := by
  simp [reversedCreation, Data.Plain, Data.PlainFields, Data.PlainItems, Json.largestWord]

/-- A directory with a batch in it. -/
def sampleDisk (text : String) : FileSystem :=
  (FileSystem.only "home").putNode ["home", "batch.json"] (.file text)

theorem batch_read_from_any_rendering_sample :
    readBatch (Json.pretty (.list [reversedCreation])) =
      some [.createPort .alias "p" (.plain "a" "A" .input) none] ∧
    let text := Json.pretty (.list [reversedCreation, .record [("op", .text "find")]])
    CommandLine.apply ⟨⟨.memory .empty, .empty⟩, "user", "engine"⟩ "batch.json" (sampleDisk text)
      (.ofClock .epoch 0 none) = ⟨[], some .unreadableBatch, sampleDisk text⟩ := by
  obtain ⟨renders, refuses⟩ := batch_read_from_any_rendering
  constructor
  · refine renders ⟨[reversedCreation], .cons renders_reversedCreation .nil, ?_⟩
    exact Json.denotes_write .pretty ⟨plain_reversedCreation, trivial⟩
  · have plain : (Data.list [reversedCreation, .record [("op", .text "find")]]).Plain :=
      ⟨plain_reversedCreation, ⟨trivial, trivial⟩, trivial⟩
    have list := Json.read_write plain .pretty
    have unknown : Unacceptable (.record [("op", .text "find")]) :=
      .unknown List.mem_cons_self (by simp [operations])
    exact (refuses list (List.mem_cons_of_mem _ List.mem_cons_self) unknown).2 _ rfl _

/-- The creation of a process, with one further field. -/
def creationWith (x : Data) : Data :=
  .record [("op", .text "create_process"), ("qualified_name", .text "p"), ("x", x)]

theorem renders_creationWith {Allowed : Data → Prop} {x : Data} (allowed : Allowed x) :
    Renders Allowed (.createProcess "p") (creationWith x) :=
  .record (.createProcess "p")
    ⟨[("x", x)], .refl _, by simp [operation, fieldNames, allowed]⟩

/-- A batch with a number that is too large for a double in a further field. -/
def hugeNumber : String :=
  "[\x7b\"op\": \"create_process\", \"qualified_name\": \"p\", \"x\": 1e999\x7d]"

/-- The number in `hugeNumber`. -/
def hugeNumeral : Json.Numeral where
  negative := false
  whole := ⟨['1'], by decide, List.all_eq_true.mp rfl⟩
  noLeadingZero := by decide
  fraction := none
  exponent := some ⟨'e', .inl rfl, .none, ⟨['9', '9', '9'], by decide, List.all_eq_true.mp rfl⟩⟩

open Json in
theorem denotes_hugeNumber : Denotes hugeNumber (.list [creationWith (.real 1 999)]) := by
  -- The text is put together from its end, as what follows a number decides where that ends.
  have close := (Spells.nil.cons .closeList id).cons .closeRecord id
  have huge : Spells _ ("1e999".toList ++ "\x7d]".toList) :=
    .token (.number hugeNumeral) (fun _ => endsNumber_cons (.inr (.inr rfl))) close
  have x := ((Spells.blank (c := ' ') rfl huge).cons .colon id).cons (spelling_writeText "x") id
  have p := ((Spells.blank (c := ' ') rfl x).cons .comma id).cons (spelling_writeText "p") id
  have name := ((Spells.blank (c := ' ') rfl p).cons .colon id).cons
    (spelling_writeText "qualified_name") id
  have process := ((Spells.blank (c := ' ') rfl name).cons .comma id).cons
    (spelling_writeText "create_process") id
  have op := ((Spells.blank (c := ' ') rfl process).cons .colon id).cons
    (spelling_writeText "op") id
  exact (op.cons .openRecord id).cons .openList id

/-- A batch with half a surrogate pair in a further field. -/
def halfPair : String :=
  "[\x7b\"op\": \"create_process\", \"qualified_name\": \"p\", \"x\": \"\\ud800\"\x7d]"

/-- However shallow it is, what is no finite number or no whole text cannot be set aside. -/
theorem unrepresentable_field_refused :
    (RendersBatch (fun d => d.depth < 100) [.createProcess "p"] hugeNumber ∧
      readBatch hugeNumber = none) ∧
    ∃ d, Renders (fun d => d.depth < 100) (.createProcess "p") d ∧
      Json.read halfPair = some (.list [d]) ∧ readBatch halfPair = none := by
  refine ⟨⟨⟨_, .cons (renders_creationWith (by decide)) .nil, denotes_hugeNumber⟩, ?huge⟩,
    creationWith .garbled, renders_creationWith (by decide), ?half, ?refused⟩
  case huge => decide +kernel
  case half => rfl
  case refused => decide +kernel

end Request

end LineagePorts
