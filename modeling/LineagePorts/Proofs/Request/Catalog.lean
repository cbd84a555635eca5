import LineagePorts.Request.Basic
import Mathlib.Data.Finset.Card
import Mathlib.Data.Finset.Image

/-!
# The catalog of names

What requests do, told by names alone: a catalog knows processes, schema types and ports by name
and the links between them, and has neither identifiers nor times nor users. Its steps say for each
request in which order the checks are made and by which code a refusal is told.
-/

namespace LineagePorts

structure PortKey where
  kind : PortKind
  name : String
deriving DecidableEq

structure Catalog where
  processes : Finset String
  schemaTypes : Finset String
  /-- The ports, each with the name of the process that owns it. -/
  ports : PortKey → Option (Port × String)
  schemaLinks : Finset (PortKey × String)
  delegations : Finset (PortKey × PortKey)

namespace Catalog

/-- How a request ends. A question finds a port with the names of its schema types. -/
inductive Answer where
  | created
  | updated
  | unchanged
  | linked
  | removed
  | found (port : Option (PortKey × Port)) (schemaTypes : Finset String)
  | failed (code : Option String)
deriving DecidableEq

/-- The code of a refusal, if it has one. -/
abbrev Refusal := Option String

def blankParameter : Refusal := some "PORT-400-001"
def wrongPortType : Refusal := some "PORT-400-002"
def unknownPort : Refusal := some "PORT-404-001"
def serverFailure : Refusal := some "PORT-500-001"

/-- A process or schema type that does not exist is told without a code. -/
def unknownEntity : Refusal := none

def empty : Catalog := ⟨∅, ∅, fun _ => none, ∅, ∅⟩

def require (condition : Bool) (refusal : Refusal) : Except Refusal Unit :=
  if condition then .ok () else .error refusal

def requireName (name : String) : Except Refusal Unit :=
  require (!Text.isBlank name) blankParameter

def portAt? (c : Catalog) (key : PortKey) : Option (PortKey × Port) :=
  (c.ports key).map fun entry => (key, entry.1)

/-- The port of a name. An alias goes before an implementation. -/
def portNamed? (c : Catalog) (name : String) : Option (PortKey × Port) :=
  (c.portAt? ⟨.alias, name⟩).or (c.portAt? ⟨.implementation, name⟩)

def port (c : Catalog) (name : String) : Except Refusal (PortKey × Port) := do
  requireName name
  match c.portNamed? name with
  | some found => .ok found
  | none => .error unknownPort

/-- The port that a delegation to a name goes to, which must be of the declared type. -/
def target (c : Catalog) (name : String) (portType : PortType) : Except Refusal PortKey := do
  let (key, found) ← c.port name
  require (found.portType = portType) wrongPortType
  return key

def putPort (c : Catalog) (key : PortKey) (port : Port) (owner : String) : Catalog :=
  { c with ports := fun k => if k = key then some (port, owner) else c.ports k }

def delegate (c : Catalog) (key target : PortKey) : Catalog :=
  { c with delegations := insert (key, target) c.delegations }

/-- The catalog without a port and its links. -/
def erasePort (c : Catalog) (key : PortKey) : Catalog where
  processes := c.processes
  schemaTypes := c.schemaTypes
  ports k := if k = key then none else c.ports k
  schemaLinks := c.schemaLinks.filter fun link => link.1 ≠ key
  delegations := c.delegations.filter fun link => link.1 ≠ key ∧ link.2 ≠ key

def schemaTypesOf (c : Catalog) (key : PortKey) : Finset String :=
  (c.schemaLinks.filter fun link => link.1 = key).image Prod.snd

/-- Only an alias delegates from the start. -/
def forward? (kind : PortKind) (delegatesTo : Option String) : Option String :=
  if kind = .alias then delegatesTo else none

/-- The name of the target is looked up anew after the port was added. -/
def forward (c : Catalog) (key : PortKey) : Option String → Catalog
  | none => c
  | some name =>
    match c.portNamed? name with
    | some (target, _) => c.delegate key target
    | none => c

/-- What is checked of a new port itself. -/
def accept (c : Catalog) (key : PortKey) (port : Port) : Except Refusal Unit := do
  requireName port.displayName
  requireName port.qualifiedName
  require (c.ports key).isNone serverFailure

def createPort (c : Catalog) (kind : PortKind) (process : String) (port : Port)
    (delegatesTo : Option String) : Except Refusal (Answer × Catalog) := do
  let key : PortKey := ⟨kind, port.qualifiedName⟩
  require (process ∈ c.processes) unknownEntity
  if let some name := forward? kind delegatesTo then
    let _ ← c.target name port.portType
  c.accept key port
  return (.created, (c.putPort key port process).forward key (forward? kind delegatesTo))

def updatePort (c : Catalog) (kind : PortKind) (port : Port) :
    Except Refusal (Answer × Catalog) := do
  let key : PortKey := ⟨kind, port.qualifiedName⟩
  requireName port.qualifiedName
  match c.ports key with
  | none => .error unknownPort
  | some (known, owner) =>
    requireName port.displayName
    if known = port then return (.unchanged, c)
    else return (.updated, c.putPort key port owner)

def addSchema (c : Catalog) (port schemaType : String) : Except Refusal (Answer × Catalog) := do
  let (key, _) ← c.port port
  require (schemaType ∈ c.schemaTypes) unknownEntity
  return (.linked, { c with schemaLinks := insert (key, schemaType) c.schemaLinks })

def addDelegation (c : Catalog) (port : String) (portType : PortType) (delegatesTo : String) :
    Except Refusal (Answer × Catalog) := do
  let (key, _) ← c.port port
  let target ← c.target delegatesTo portType
  return (.linked, c.delegate key target)

/-- Removing a port that is not there is no failure. -/
def removePort (c : Catalog) (name : String) : Except Refusal (Answer × Catalog) := do
  requireName name
  match c.portNamed? name with
  | none => return (.removed, c)
  | some (key, _) => return (.removed, c.erasePort key)

/-- A port with several schema types cannot be shown. -/
def findPort (c : Catalog) (name : String) : Except Refusal (Answer × Catalog) := do
  requireName name
  match c.portNamed? name with
  | none => return (.found none ∅, c)
  | some (key, port) =>
    require ((c.schemaTypesOf key).card ≤ 1) serverFailure
    return (.found (some (key, port)) (c.schemaTypesOf key), c)

def change (c : Catalog) : Request → Except Refusal (Answer × Catalog)
  | .createProcess name => do
    require (name ∉ c.processes) serverFailure
    return (.created, { c with processes := insert name c.processes })
  | .createSchemaType name => do
    require (name ∉ c.schemaTypes) serverFailure
    return (.created, { c with schemaTypes := insert name c.schemaTypes })
  | .createPort kind process port delegatesTo => c.createPort kind process port delegatesTo
  | .updatePort kind port => c.updatePort kind port
  | .addSchema port schemaType => c.addSchema port schemaType
  | .addDelegation port portType delegatesTo => c.addDelegation port portType delegatesTo
  | .removePort name => c.removePort name
  | .findPort name => c.findPort name

/-- A request that is refused leaves the catalog as it is. -/
def step (c : Catalog) (request : Request) : Answer × Catalog :=
  match c.change request with
  | .ok result => result
  | .error refusal => (.failed refusal, c)

def run : Catalog → List Request → List Answer × Catalog
  | c, [] => ([], c)
  | c, request :: rest =>
    let (answer, next) := c.step request
    let (answers, last) := next.run rest
    (answer :: answers, last)

theorem port_eq (c : Catalog) (name : String) :
    c.port name =
      if Text.isBlank name then .error blankParameter
      else
        match c.portNamed? name with
        | some found => .ok found
        | none => .error unknownPort := by
  rw [port, requireName, require]
  cases Text.isBlank name <;> rfl

theorem target_eq (c : Catalog) (name : String) (portType : PortType) :
    c.target name portType =
      if Text.isBlank name then .error blankParameter
      else
        match c.portNamed? name with
        | some (key, found) =>
          if found.portType = portType then .ok key else .error wrongPortType
        | none => .error unknownPort := by
  rw [target, port_eq]
  cases Text.isBlank name with
  | true => rfl
  | false =>
    cases c.portNamed? name with
    | none => rfl
    | some found =>
      obtain ⟨key, known⟩ := found
      show (require (known.portType = portType) wrongPortType >>= fun _ => pure key) = _
      rw [require]
      by_cases same : known.portType = portType
      · rw [if_pos (decide_eq_true same)]
        exact (if_pos same).symm
      · rw [if_neg (fun h => same (of_decide_eq_true h))]
        exact (if_neg same).symm

section CreatePort

variable {c : Catalog} {kind : PortKind} {process : String} {port : Port}
  {delegatesTo : Option String}

theorem createPort_of_notMem (unknown : process ∉ c.processes) :
    c.createPort kind process port delegatesTo = .error unknownEntity := by
  rw [createPort, require, decide_eq_false unknown]
  rfl

theorem createPort_plain (known : process ∈ c.processes)
    (plain : forward? kind delegatesTo = none) :
    c.createPort kind process port delegatesTo =
      (c.accept ⟨kind, port.qualifiedName⟩ port).map fun _ =>
        (.created, c.putPort ⟨kind, port.qualifiedName⟩ port process) := by
  rw [createPort, require, decide_eq_true known, plain]
  rfl

theorem createPort_forward (known : process ∈ c.processes) {name : String}
    (forwards : forward? kind delegatesTo = some name) :
    c.createPort kind process port delegatesTo =
      c.target name port.portType >>= fun _ =>
        (c.accept ⟨kind, port.qualifiedName⟩ port).map fun _ =>
          (.created, (c.putPort ⟨kind, port.qualifiedName⟩ port process).forward
            ⟨kind, port.qualifiedName⟩ (some name)) := by
  rw [createPort, require, decide_eq_true known, forwards]
  dsimp only
  cases c.target name port.portType <;> rfl

end CreatePort

/-- A name that stands for a port of some type still does after a port of that type was added,
though perhaps for the new one. -/
theorem portNamed?_putPort {c : Catalog} {key found : PortKey} {port known : Port} {name : String}
    {owner : String} (named : c.portNamed? name = some (found, known))
    (same : known.portType = port.portType) :
    ∃ key' port', (c.putPort key port owner).portNamed? name = some (key', port') ∧
      port'.portType = port.portType := by
  have put (k : PortKey) : (c.putPort key port owner).portAt? k =
      if k = key then some (k, port) else c.portAt? k := by
    rw [portAt?, portAt?, putPort]
    by_cases h : k = key <;> simp [h]
  rw [portNamed?] at named ⊢
  rw [put, put]
  by_cases isAlias : (⟨.alias, name⟩ : PortKey) = key
  · exact ⟨_, port, by rw [if_pos isAlias]; rfl, rfl⟩
  rw [if_neg isAlias]
  cases atAlias : c.portAt? ⟨.alias, name⟩ with
  | some entry =>
    rw [atAlias] at named
    exact ⟨found, known, named, same⟩
  | none =>
    rw [atAlias] at named
    by_cases isImplementation : (⟨.implementation, name⟩ : PortKey) = key
    · exact ⟨_, port, by rw [if_pos isImplementation]; rfl, rfl⟩
    · rw [if_neg isImplementation]
      exact ⟨found, known, named, same⟩

/-- So a target that was accepted for a port is accepted once more when the port is there. -/
theorem target_putPort {c : Catalog} {key found : PortKey} {port : Port} {name owner : String}
    (accepted : c.target name port.portType = .ok found) :
    ∃ key', (c.putPort key port owner).target name port.portType = .ok key' := by
  rw [target_eq] at accepted ⊢
  split at accepted
  · cases accepted
  rename_i notBlank
  rw [if_neg notBlank]
  cases named : c.portNamed? name with
  | none =>
    rw [named] at accepted
    cases accepted
  | some entry =>
    rw [named] at accepted
    dsimp only at accepted
    split at accepted
    · rename_i same
      have still : ∃ key' port', (c.putPort key port owner).portNamed? name = some (key', port') ∧
          port'.portType = port.portType := portNamed?_putPort named same
      obtain ⟨key', port', named', same'⟩ := still
      exact ⟨key', by rw [named']; exact if_pos same'⟩
    · cases accepted

end Catalog

end LineagePorts
