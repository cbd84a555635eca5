import LineagePorts.Failure

/-!
# The registry of external sources

Sources by name, each with the identifier it got when it was first registered and with the users
that may act on its behalf. Registering a name again replaces its users and keeps its identifier.
-/

namespace LineagePorts

structure RegisteredSource where
  qualifiedName : String
  id : SourceId
  /-- The users that may act for the source; without a list every user may. -/
  authorizedUsers : Option (List String)
deriving DecidableEq

structure Registry where
  sources : List RegisteredSource
deriving DecidableEq

namespace Registry

def empty : Registry := ⟨[]⟩

def find? (r : Registry) (qualifiedName : String) : Option RegisteredSource :=
  r.sources.find? fun s => s.qualifiedName = qualifiedName

/-- Registers a source, with `fresh` as its identifier if the name is new. -/
def registerFor (r : Registry) (fresh : SourceId) (qualifiedName : String)
    (authorizedUsers : Option (List String)) : SourceId × Registry :=
  match r.find? qualifiedName with
  | some s =>
    (s.id, ⟨r.sources.map fun s =>
      if s.qualifiedName = qualifiedName then { s with authorizedUsers := authorizedUsers } else s⟩)
  | none => (fresh, ⟨r.sources ++ [⟨qualifiedName, fresh, authorizedUsers⟩]⟩)

/-- Registers a source that every user may act for. -/
def register (r : Registry) (fresh : SourceId) (qualifiedName : String) : SourceId × Registry :=
  r.registerFor fresh qualifiedName none

def mayActFor (user : String) : Option (List String) → Bool
  | none => true
  | some users => user ∈ users

def resolve (r : Registry) (user qualifiedName : String) : Except Failure SourceId :=
  match r.find? qualifiedName with
  | none => .error (.server (.sourceNotRegistered qualifiedName))
  | some s =>
    if mayActFor user s.authorizedUsers then .ok s.id
    else .error (.userNotAuthorized user
      ("act on behalf of external source " ++ qualifiedName))

end Registry

end LineagePorts
