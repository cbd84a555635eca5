import LineagePorts.Registry
import LineagePorts.Store.File

/-!
# Operations

An operation works on a store through calls, each of which the store makes as a whole, and asks the
registry on whose behalf it may. It may fail after some of its calls: what they did stays done. A
trace keeps what the operation asked of the registry and which calls it made, in order.
-/

namespace LineagePorts

/-- A store in memory or in a file. Both answer alike; the second one may fail to save. -/
inductive Backend where
  | memory (store : Store)
  | file (fileStore : FileStore)
deriving DecidableEq

namespace Backend

def store : Backend → Store
  | .memory s => s
  | .file f => f.store

def commit {α : Type} (b : Backend) (fault : Option SaveFault)
    (change : Store → Except Failure (α × Store)) : Except Failure α × Backend :=
  match b with
  | .memory s =>
    match change s with
    | .error e => (.error e, .memory s)
    | .ok (a, next) => (.ok a, .memory next)
  | .file f =>
    let (answer, next) := f.commit fault change
    (answer, .file next)

end Backend

inductive Event where
  /-- The registry was asked, and granted the request or not. -/
  | resolved (user source : String) (granted : Bool)
  | called (who : Caller) (call : Store.Call)
deriving DecidableEq

def Event.isCall : Event → Bool
  | .called _ _ => true
  | .resolved _ _ _ => false

/-- What an operation changes. -/
structure Desk where
  backend : Backend
  trace : List Event
deriving DecidableEq

namespace Desk

def store (d : Desk) : Store := d.backend.store

def record (d : Desk) (e : Event) : Desk := { d with trace := d.trace ++ [e] }

/-- How many mutating calls were made. -/
def calls (d : Desk) : Nat := d.trace.countP Event.isCall

/-- How often the registry was asked. -/
def resolutions (d : Desk) : Nat := d.trace.countP fun e => !e.isCall

end Desk

/-- What an operation is given: the registry, and for each of its calls a stamp and what the disk
does while the call is saved. -/
structure Surroundings where
  registry : Registry
  stamp : Nat → Stamp
  fault : Nat → Option SaveFault

abbrev Operation (ε α : Type) := ReaderT Surroundings (ExceptT ε (StateM Desk)) α

namespace Operation

variable {ε ε' α : Type}

def perform (op : Operation ε α) (around : Surroundings) (desk : Desk) : Except ε α × Desk :=
  (op.run around).run.run desk

def ofExcept : Except ε α → Operation ε α
  | .ok a => pure a
  | .error e => throw e

/-- What the store answers. Reading changes nothing and is not recorded. -/
def ask (question : Store → α) : Operation ε α := do
  return question (← get).store

def mapError (f : ε → ε') (op : Operation ε α) : Operation ε' α := fun around desk =>
  let (answer, desk) := op.perform around desk
  (answer.mapError f, desk)

/-- The external source of this name, provided that the user may act for it. -/
def resolve (user source : String) : Operation Failure ExternalSource := do
  let answer := (← read).registry.resolve user source
  modify fun d => d.record (.resolved user source answer.toBool)
  return ⟨← ofExcept answer, source⟩

/-- Makes a call. The n-th call of an operation gets the n-th stamp. -/
def change (who : Caller) (call : Store.Call)
    (act : Stamp → Store → Except Failure (α × Store)) : Operation Failure α := do
  let around ← read
  let desk ← get
  let (answer, backend) :=
    desk.backend.commit (around.fault desk.calls) (act (around.stamp desk.calls))
  set ({ desk with backend := backend }.record (.called who call))
  ofExcept answer

def createEntity (who : Caller) (typeName : String) (properties : Properties)
    (owner : Option Ownership) : Operation Failure EntityId :=
  change who (.createEntity typeName properties owner) fun stamp s =>
    s.createEntity stamp who typeName properties owner

def updateEntity (who : Caller) (id : EntityId) (typeName : String) (properties : Properties) :
    Operation Failure Unit :=
  change who (.updateEntity id typeName properties) fun stamp s =>
    (s.updateEntity stamp who id typeName properties).map ((), ·)

def deleteEntity (who : Caller) (id : EntityId) : Operation Failure Unit :=
  change who (.deleteEntity id) fun _ s => (s.deleteEntity id).map ((), ·)

def createRelationship (who : Caller) (start finish : EntityId) (typeName : String) :
    Operation Failure RelationshipId :=
  change who (.createRelationship start finish typeName) fun stamp s =>
    s.createRelationship stamp who start finish typeName

end Operation

end LineagePorts
