import LineagePorts.Entity.Data
import LineagePorts.Failure

/-!
# Outcomes of requests

What a request that went well answers, why one fails, and the record that is printed for either.
-/

namespace LineagePorts

inductive RequestError where
  | port (e : Failure)
  /-- A process or schema type that the request refers to does not exist. -/
  | noSuchEntity (typeName qualifiedName : String)
deriving DecidableEq

namespace RequestError

def code? : RequestError → Option String
  | .port e => some e.code
  | .noSuchEntity _ _ => none

def message : RequestError → String
  | .port e => e.message
  | .noSuchEntity typeName qualifiedName => "no " ++ typeName ++ " named " ++ qualifiedName

end RequestError

inductive Outcome where
  | created (id : EntityId)
  | updated
  | unchanged
  | linked
  | removed
  | found (port schemaType : Option Entity)
  | failed (error : RequestError)
deriving DecidableEq

namespace Outcome

def ofAnswer : Except RequestError Outcome → Outcome
  | .ok outcome => outcome
  | .error e => .failed e

def isFailure : Outcome → Bool
  | .failed _ => true
  | _ => false

def fields : Outcome → List (String × Data)
  | .created id => [("status", .text "created"), ("guid", .text id.text)]
  | .updated => [("status", .text "updated")]
  | .unchanged => [("status", .text "unchanged")]
  | .linked => [("status", .text "linked")]
  | .removed => [("status", .text "removed")]
  | .found port schemaType =>
    [("status", .text "found"), ("port", (port.map Entity.toData).getD .null)] ++
      Data.optionalField "schema_type" Entity.toData schemaType
  | .failed e =>
    ("status", .text "failed") :: Data.optionalField "code" .text e.code? ++
      [("message", .text e.message)]

def toData (o : Outcome) : Data := .record o.fields

end Outcome

end LineagePorts
