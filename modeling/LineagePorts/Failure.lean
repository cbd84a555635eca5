import LineagePorts.FileSystem.Trouble
import LineagePorts.Identifier

/-!
# Failures of port management

What can go wrong, by cause. Every failure has a stable code, a kind and a message.
-/

namespace LineagePorts

/-- Why the metadata server, which is the store or the registry of sources, failed. -/
inductive ServerFault where
  | entityNotFound (id : EntityId)
  | entityNotOfType (id : EntityId) (actual expected : String)
  | unknownRelationshipType (name : String)
  | nameTaken (typeName qualifiedName : String)
  | cannotBeOwned (typeName relationshipType : String)
  | severalRelationships (id : EntityId) (relationshipType : String)
  | sourceNotRegistered (qualifiedName : String)
  | storeDirectoryUnusable (path : String) (trouble : Trouble)
  | storeDirectoryNotDirectory (path : String)
  | storeFileUnreadable (path : String) (trouble : Trouble)
  | storeFileCorrupt (path : String)
  | cannotWrite (path : String) (trouble : Trouble)
  | cannotReplace (path : String) (trouble : Trouble)
  | other (message : String)
deriving DecidableEq

namespace ServerFault

/-- What went wrong, without what the disk says about it. -/
def headline : ServerFault → String
  | .entityNotFound id => "entity " ++ id.text ++ " not found"
  | .entityNotOfType id actual expected =>
    "entity " ++ id.text ++ " is a " ++ actual ++ " and not a " ++ expected
  | .unknownRelationshipType name => "unknown relationship type " ++ name
  | .nameTaken typeName qualifiedName =>
    "an entity of type " ++ typeName ++ " with qualified name " ++ qualifiedName ++
      " already exists"
  | .cannotBeOwned typeName relationshipType =>
    "a " ++ typeName ++ " cannot be owned through " ++ relationshipType
  | .severalRelationships id relationshipType =>
    "entity " ++ id.text ++ " has more than one " ++ relationshipType ++ " relationship"
  | .sourceNotRegistered qualifiedName =>
    "external source " ++ qualifiedName ++ " is not registered"
  | .storeDirectoryUnusable path _ => "store directory " ++ path ++ " is not usable"
  | .storeDirectoryNotDirectory path => "store directory " ++ path ++ " is not a directory"
  | .storeFileUnreadable path _ => "cannot read store file " ++ path
  | .storeFileCorrupt path => "corrupt store file " ++ path
  | .cannotWrite path _ => "cannot write " ++ path
  | .cannotReplace path _ => "cannot replace " ++ path
  | .other message => message

def trouble? : ServerFault → Option Trouble
  | .storeDirectoryUnusable _ t => some t
  | .storeFileUnreadable _ t => some t
  | .cannotWrite _ t => some t
  | .cannotReplace _ t => some t
  | _ => none

/-- The trouble stands behind the headline, with a colon between them. -/
def message (f : ServerFault) : String :=
  match f.trouble? with
  | some t => f.headline ++ ": " ++ t.text
  | none => f.headline

end ServerFault

inductive Failure where
  /-- A required parameter is missing, blank or malformed. -/
  | invalidParameter (parameter action : String)
  | portNotFound (qualifiedName : String)
  /-- The stored type of a delegation target is not the declared one. `actual` is empty when the
  stored entity has no port type. -/
  | invalidPortType (qualifiedName actual : String)
  | userNotAuthorized (userId action : String)
  | server (fault : ServerFault)
deriving DecidableEq

namespace Failure

/-- What a failure asks for: a better request, a port that exists, a permission, or a working
server. -/
inductive Kind where
  | invalidRequest
  | notFound
  | unauthorized
  | infrastructure
deriving DecidableEq

def kind : Failure → Kind
  | .invalidParameter _ _ => .invalidRequest
  | .invalidPortType _ _ => .invalidRequest
  | .portNotFound _ => .notFound
  | .userNotAuthorized _ _ => .unauthorized
  | .server _ => .infrastructure

def code : Failure → String
  | .invalidParameter _ _ => "PORT-400-001"
  | .invalidPortType _ _ => "PORT-400-002"
  | .userNotAuthorized _ _ => "PORT-403-001"
  | .portNotFound _ => "PORT-404-001"
  | .server _ => "PORT-500-001"

def message : Failure → String
  | .invalidParameter parameter action =>
    "invalid value for parameter '" ++ parameter ++ "' passed to " ++ action
  | .portNotFound qualifiedName => "no port found with qualified name '" ++ qualifiedName ++ "'"
  | .invalidPortType qualifiedName actual =>
    "port '" ++ qualifiedName ++ "' has type '" ++ actual ++
      "', which does not match the declared port type"
  | .userNotAuthorized userId action =>
    "user '" ++ userId ++ "' is not authorized to perform " ++ action
  | .server fault => "metadata server failure: " ++ fault.message

end Failure

end LineagePorts
