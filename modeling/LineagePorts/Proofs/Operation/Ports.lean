import LineagePorts.PortOperation
import LineagePorts.Proofs.Operation.Perform

/-!
# Performing operations on ports

What the questions about ports answer when a user who is not blank asks them.
-/

namespace LineagePorts

namespace Parameter

theorem checkName_of_blank {value : String} (blank : Text.isBlank value = true)
    (parameter action : String) :
    checkName value parameter action = .error (.invalidParameter parameter action) :=
  if_pos blank

theorem checkName_of_not_blank {value : String} (notBlank : Text.isBlank value = false)
    (parameter action : String) : checkName value parameter action = .ok () := by
  rw [checkName, notBlank]
  rfl

theorem checkUser_of_not_blank {user : String} (notBlank : Text.isBlank user = false)
    (action : String) : checkUser user action = .ok () :=
  checkName_of_not_blank notBlank userId action

end Parameter

/-- The port of a name. An alias goes before an implementation. -/
def Store.portNamed? (s : Store) (name : String) : Option Entity :=
  (s.findByName? name TypeName.portAlias).or (s.findByName? name TypeName.portImplementation)

namespace PortOperation

open Operation Parameter

section Answers

variable {user : String} (notBlank : Text.isBlank user = false) (around : Surroundings)
  (desk : Desk)

include notBlank

theorem perform_findTyped (name typeName : String) :
    (findTyped user name typeName).perform around desk =
      if Text.isBlank name then (.error (.invalidParameter qualifiedName "find_entity"), desk)
      else (.ok (desk.store.findByName? name typeName), desk) := by
  rw [findTyped, perform_bind, perform_ofExcept, checkUser_of_not_blank notBlank]
  dsimp only
  rw [perform_bind, perform_ofExcept]
  cases blank : Text.isBlank name with
  | true =>
    rw [checkName_of_blank blank]
    rfl
  | false =>
    rw [checkName_of_not_blank blank]
    rfl

theorem perform_findOfKind (name : String) (kind : PortKind) :
    (findOfKind user name kind).perform around desk =
      if Text.isBlank name then (.error (.invalidParameter qualifiedName "find_entity"), desk)
      else (.ok (desk.store.findByName? name kind.typeName), desk) := by
  cases kind <;> exact perform_findTyped notBlank around desk name _

theorem perform_find (name : String) :
    (find user name).perform around desk =
      if Text.isBlank name then (.error (.invalidParameter qualifiedName "find_entity"), desk)
      else (.ok (desk.store.portNamed? name), desk) := by
  rw [find, perform_bind, findAlias, perform_findTyped notBlank]
  cases blank : Text.isBlank name with
  | true => rfl
  | false =>
    rw [if_neg Bool.false_ne_true, if_neg Bool.false_ne_true, Store.portNamed?]
    dsimp only
    cases desk.store.findByName? name TypeName.portAlias with
    | some e => rfl
    | none =>
      dsimp only
      rw [findImplementation, perform_findTyped notBlank, blank, if_neg Bool.false_ne_true]
      rfl

/-- The port of a name, if it is stored with the declared type, and else why there is none. -/
theorem perform_findDeclared (portType : PortType) (name : String) :
    (findDeclared user portType name).perform around desk =
      if Text.isBlank name then (.error (.invalidParameter qualifiedName "find_entity"), desk)
      else
        match desk.store.portNamed? name with
        | none => (.error (.portNotFound name), desk)
        | some port =>
          if port.hasPortType portType then (.ok port, desk)
          else (.error (.invalidPortType name (port.portSymbol?.getD "")), desk) := by
  rw [findDeclared, perform_bind, perform_find notBlank]
  cases Text.isBlank name with
  | true => rfl
  | false =>
    rw [if_neg Bool.false_ne_true, if_neg Bool.false_ne_true]
    dsimp only
    cases desk.store.portNamed? name with
    | none => rfl
    | some port =>
      dsimp only
      split <;> rfl

theorem checkDelegation_eq (delegatesTo action : String) :
    checkDelegation user delegatesTo action =
      checkName delegatesTo Parameter.delegatesTo action := by
  rw [checkDelegation, checkUser_of_not_blank notBlank]
  rfl

/-- The port that a delegation goes to is looked up in one way, whatever is then done with it. -/
theorem perform_delegation {α : Type} (portType : PortType) (name action : String)
    (f : Entity → Operation Failure α) :
    (ofExcept (checkDelegation user name action) >>= fun _ =>
      findDeclared user portType name >>= f).perform around desk =
      if Text.isBlank name then (.error (.invalidParameter delegatesTo action), desk)
      else
        match desk.store.portNamed? name with
        | none => (.error (.portNotFound name), desk)
        | some port =>
          if port.hasPortType portType then (f port).perform around desk
          else (.error (.invalidPortType name (port.portSymbol?.getD "")), desk) := by
  rw [perform_bind, perform_ofExcept, checkDelegation_eq notBlank]
  cases blank : Text.isBlank name with
  | true =>
    rw [checkName_of_blank blank]
    rfl
  | false =>
    rw [checkName_of_not_blank blank, if_neg Bool.false_ne_true]
    dsimp only
    rw [perform_bind, perform_findDeclared notBlank, blank, if_neg Bool.false_ne_true]
    cases desk.store.portNamed? name with
    | none => rfl
    | some port =>
      dsimp only
      cases port.hasPortType portType <;> rfl

/-- Adding a schema type is a link, once the user was checked. -/
theorem perform_addSchema (port schemaType : EntityId) (source : String) :
    (addSchema user port schemaType source).perform around desk =
      (link user port schemaType TypeName.portSchema source).perform around desk := by
  rw [addSchema, perform_bind, perform_ofExcept, checkUser_of_not_blank notBlank]

theorem checkPort_eq (port : Port) (action : String) :
    checkPort user port action =
      if Text.isBlank port.displayName then .error (.invalidParameter displayName action)
      else if Text.isBlank port.qualifiedName then .error (.invalidParameter qualifiedName action)
      else .ok () := by
  rw [checkPort, checkUser_of_not_blank notBlank, checkName, checkName]
  show (if _ then _ else _ : Except Failure Unit) >>= _ = _
  split <;> rfl

end Answers

end PortOperation

end LineagePorts
