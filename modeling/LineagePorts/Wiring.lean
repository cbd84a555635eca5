import LineagePorts.Config.Basic
import LineagePorts.Operation

/-!
# Wiring

The store and the registry that a configuration describes. A missing part is reported when the two
are put together, not when it is first used.
-/

namespace LineagePorts

inductive WiringError where
  | missingStore
  | missingResolver
  | store (e : Failure)
deriving DecidableEq

def WiringError.message : WiringError → String
  | .missingStore => "no entity store was configured"
  | .missingResolver => "no external source resolver was configured"
  | .store e => "cannot open entity store: " ++ e.message

/-- A store and a registry to work with. -/
structure Wired where
  backend : Backend
  registry : Registry
deriving DecidableEq

namespace Wired

def build (backend : Option Backend) (registry : Option Registry) : Except WiringError Wired :=
  match backend, registry with
  | none, _ => .error .missingStore
  | some _, none => .error .missingResolver
  | some b, some r => .ok ⟨b, r⟩

end Wired

namespace Config

/-- The registry of the configured sources. The n-th of them gets the n-th fresh identifier, if its
name is new. -/
def registry (c : Config) (fresh : Nat → SourceId) : Registry :=
  c.externalSources.zipIdx.foldl
    (fun r (s, n) => (r.registerFor (fresh n) s.qualifiedName s.authorizedUsers).2) .empty

def openStore (c : Config) (disk : FileSystem) : Except WiringError Backend :=
  match c.store with
  | .memory => .ok (.memory .empty)
  | .jsonFile path =>
    match FileStore.open? disk path with
    | .ok f => .ok (.file f)
    | .error e => .error (.store e)

def wire (c : Config) (disk : FileSystem) (fresh : Nat → SourceId) : Except WiringError Wired := do
  let backend ← c.openStore disk
  Wired.build (some backend) (some (c.registry fresh))

end Config

end LineagePorts
