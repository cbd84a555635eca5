import LineagePorts.Failure
import LineagePorts.Text.Blank

/-!
# Checks on parameters

Checks that an operation makes before it asks the store or the registry for anything. A check that
fails names the parameter and the operation.
-/

namespace LineagePorts.Parameter

def userId : String := "userId"
def qualifiedName : String := "qualifiedName"
def displayName : String := "displayName"
def delegatesTo : String := "delegatesTo"

/-- A name must not be blank. -/
def checkName (value parameter action : String) : Except Failure Unit :=
  if Text.isBlank value then .error (.invalidParameter parameter action) else .ok ()

def checkUser (value action : String) : Except Failure Unit :=
  checkName value userId action

/-- The identifier that a text denotes. -/
def readId (text parameter action : String) : Except Failure EntityId := do
  checkName text parameter action
  match Id.ofText text with
  | .ok id => .ok id
  | .error _ => .error (.invalidParameter parameter action)

end LineagePorts.Parameter
