import LineagePorts.Proofs.Operation.Linking

/-!
# A delegation and its check

The port that a delegation would go to can be asked for first. What that question answers decides how
the delegation ends: a target is what it then goes to, and a refusal is the refusal of the delegation.
A name stands for the alias that has it, even if an implementation of the declared type has it too.
-/

namespace LineagePorts

/-- The name stands for this port: the alias that has it or, without one, the implementation. -/
def Store.StandsFor (s : Store) (name : String) (port : Entity) : Prop :=
  s.entities.get? port.id = some port ∧ port.qualifiedName? = some name ∧
    (port.typeName = TypeName.portAlias ∨
      (port.typeName = TypeName.portImplementation ∧ ∀ id, ¬ s.Named id TypeName.portAlias name))

/-- The stored port type is a symbol, and it is that of the type but for the case of letters. -/
def Entity.Declares (e : Entity) (t : PortType) : Prop :=
  ∃ ordinal symbol, e.properties.get? PropertyName.portType = some (.symbol ordinal symbol) ∧
    symbol.toList.map Char.toLower = t.symbol.toList.map Char.toLower

theorem Entity.hasPortType_iff {e : Entity} {t : PortType} :
    e.hasPortType t = true ↔ e.Declares t := by
  rw [hasPortType, portSymbol?, Properties.symbol?, Option.any_eq_true]
  constructor
  · rintro ⟨symbol, told, same⟩
    obtain ⟨value, stored, read⟩ := Option.bind_eq_some_iff.mp told
    cases value with
    | symbol ordinal text =>
      obtain rfl := Option.some.inj read
      exact ⟨ordinal, text, stored, (of_decide_eq_true same).symm⟩
    | text t => cases read
    | map entries => cases read
  · rintro ⟨ordinal, symbol, stored, same⟩
    refine ⟨symbol, ?_, decide_eq_true same.symm⟩
    rw [stored]
    rfl

namespace Store

variable {s : Store} (sound : s.Integrity) (unique : s.Unique)

include sound unique

theorem findByName?_eq_none_iff {name typeName : String} :
    s.findByName? name typeName = none ↔ ∀ id, ¬ s.Named id typeName name := by
  constructor
  · rintro absent id ⟨e, stored, typed, named⟩
    obtain rfl := sound.entityId stored
    have found := (findByName?_eq_some_iff sound unique).mpr ⟨stored, typed, named⟩
    rw [absent] at found
    cases found
  · intro absent
    cases found : s.findByName? name typeName with
    | none => rfl
    | some e =>
      obtain ⟨stored, typed, named⟩ := (findByName?_eq_some_iff sound unique).mp found
      exact absurd ⟨e, stored, typed, named⟩ (absent e.id)

theorem portNamed?_eq_some_iff {name : String} {port : Entity} :
    s.portNamed? name = some port ↔ s.StandsFor name port := by
  rw [portNamed?, Option.or_eq_some_iff, findByName?_eq_some_iff sound unique,
    findByName?_eq_some_iff sound unique, findByName?_eq_none_iff sound unique]
  constructor
  · rintro (⟨stored, typed, named⟩ | ⟨absent, stored, typed, named⟩)
    · exact ⟨stored, named, .inl typed⟩
    · exact ⟨stored, named, .inr ⟨typed, absent⟩⟩
  · rintro ⟨stored, named, typed | ⟨typed, absent⟩⟩
    · exact .inl ⟨stored, typed, named⟩
    · exact .inr ⟨absent, stored, typed, named⟩

/-- A name stands for one port. -/
theorem StandsFor.port_unique {name : String} {port other : Entity} (stands : s.StandsFor name port)
    (stands' : s.StandsFor name other) : port = other := by
  have known := (portNamed?_eq_some_iff sound unique).mpr stands
  have known' := (portNamed?_eq_some_iff sound unique).mpr stands'
  exact Option.some.inj (known.symm.trans known')

omit sound unique in
theorem StandsFor.named {name : String} {e : Entity} (stands : s.StandsFor name e) :
    ∃ kind : PortKind, s.Named e.id kind.typeName name := by
  obtain ⟨stored, named, typed | ⟨typed, _⟩⟩ := stands
  · exact ⟨.alias, e, stored, typed, named⟩
  · exact ⟨.implementation, e, stored, typed, named⟩

omit sound unique in
theorem StandsFor.hasType {name : String} {port : Entity} (stands : s.StandsFor name port) :
    s.HasType port.id TypeName.port := by
  obtain ⟨stored, _, typed | ⟨typed, _⟩⟩ := stands
  · exact ⟨port, stored, by rw [typed]; rfl⟩
  · exact ⟨port, stored, by rw [typed]; rfl⟩

end Store

namespace PortOperation

open Operation Parameter

/-- What becomes of a delegation: of the question for its target, and of the operation itself. -/
inductive Decided (b : Backend) (port : EntityId) (portType : PortType) (name : String) :
    Except Failure Entity × Desk → Except Failure Unit × Desk → Prop where
  | blank (isBlank : Text.isBlank name = true) :
      Decided b port portType name
        (.error (.invalidParameter Parameter.delegatesTo "find_delegation_target"), ⟨b, []⟩)
        (.error (.invalidParameter Parameter.delegatesTo "add_port_delegation_relationship"),
          ⟨b, []⟩)
  | unknown (notBlank : Text.isBlank name = false) (absent : ∀ t, ¬ b.store.StandsFor name t) :
      Decided b port portType name (.error (.portNotFound name), ⟨b, []⟩)
        (.error (.portNotFound name), ⟨b, []⟩)
  | other {t : Entity} (notBlank : Text.isBlank name = false) (stands : b.store.StandsFor name t)
      (differs : ¬ t.Declares portType) :
      Decided b port portType name
        (.error (.invalidPortType name (t.portSymbol?.getD "")), ⟨b, []⟩)
        (.error (.invalidPortType name (t.portSymbol?.getD "")), ⟨b, []⟩)
  | found {t : Entity} {d : Desk} (notBlank : Text.isBlank name = false)
      (stands : b.store.StandsFor name t) (declared : t.Declares portType)
      (entities : d.store.entities = b.store.entities)
      (links : ∀ typeName start finish, d.store.Linked typeName start finish ↔
        b.store.Linked typeName start finish ∨
          (typeName = TypeName.portDelegation ∧ start = port ∧ finish = t.id)) :
      Decided b port portType name (.ok t, ⟨b, []⟩) (.ok (), d)

namespace Decided

variable {b : Backend} {port : EntityId} {portType : PortType} {name : String}
  {found : Except Failure Entity × Desk} {added : Except Failure Unit × Desk}
  (decided : Decided b port portType name found added)

include decided

theorem desk_eq : found.2 = ⟨b, []⟩ := by
  cases decided <;> rfl

theorem target_iff (sound : b.store.Integrity) (unique : b.store.Unique) {t : Entity} :
    found.1 = .ok t ↔
      Text.isBlank name = false ∧ b.store.StandsFor name t ∧ t.Declares portType := by
  constructor
  · intro told
    cases decided with
    | blank isBlank => cases told
    | unknown notBlank absent => cases told
    | other notBlank stands differs => cases told
    | found notBlank stands declared entities links =>
      obtain rfl := Except.ok.inj told
      exact ⟨notBlank, stands, declared⟩
  · rintro ⟨notBlank, stands, declared⟩
    cases decided with
    | blank isBlank =>
      rw [isBlank] at notBlank
      cases notBlank
    | unknown _ absent => exact absurd stands (absent t)
    | other _ stands' differs =>
      obtain rfl := Store.StandsFor.port_unique sound unique stands stands'
      exact absurd declared differs
    | found _ stands' _ entities links =>
      obtain rfl := Store.StandsFor.port_unique sound unique stands stands'
      rfl

theorem success_iff : added.1 = .ok () ↔ ∃ t, found.1 = .ok t := by
  cases decided with
  | blank isBlank => simp
  | unknown notBlank absent => simp
  | other notBlank stands differs => simp
  | found notBlank stands declared entities links => exact ⟨fun _ => ⟨_, rfl⟩, fun _ => rfl⟩

theorem effect {t : Entity} (told : found.1 = .ok t) :
    added.2.store.entities = b.store.entities ∧
      ∀ typeName start finish, added.2.store.Linked typeName start finish ↔
        b.store.Linked typeName start finish ∨
          (typeName = TypeName.portDelegation ∧ start = port ∧ finish = t.id) := by
  cases decided with
  | blank isBlank => cases told
  | unknown notBlank absent => cases told
  | other notBlank stands differs => cases told
  | found notBlank stands declared entities links =>
    obtain rfl := Except.ok.inj told
    exact ⟨entities, links⟩

theorem refusal {e : Failure} (told : found.1 = .error e) : added.2 = ⟨b, []⟩ ∧
    ((Text.isBlank name = true ∧
        e = .invalidParameter Parameter.delegatesTo "find_delegation_target" ∧
        added.1 =
          .error (.invalidParameter Parameter.delegatesTo "add_port_delegation_relationship")) ∨
      (Text.isBlank name = false ∧ added.1 = .error e ∧
        (((∀ t, ¬ b.store.StandsFor name t) ∧ e = .portNotFound name) ∨
          ∃ t, b.store.StandsFor name t ∧ ¬ t.Declares portType ∧
            e = .invalidPortType name (t.portSymbol?.getD "")))) := by
  cases decided with
  | blank isBlank =>
    obtain rfl := Except.error.inj told
    exact ⟨rfl, .inl ⟨isBlank, rfl, rfl⟩⟩
  | unknown notBlank absent =>
    obtain rfl := Except.error.inj told
    exact ⟨rfl, .inr ⟨notBlank, rfl, .inl ⟨absent, rfl⟩⟩⟩
  | other notBlank stands differs =>
    obtain rfl := Except.error.inj told
    exact ⟨rfl, .inr ⟨notBlank, rfl, .inr ⟨_, stands, differs, rfl⟩⟩⟩
  | found notBlank stands declared entities links => cases told

end Decided

variable {user source : String} {around : Surroundings} {b : Backend}

theorem decided (reached : b.store.Reached) {id : SourceId} (notBlank : Text.isBlank user = false)
    (granted : around.registry.resolve user source = .ok id) {port : EntityId}
    (isPort : b.store.HasType port TypeName.port) (portType : PortType) (name : String)
    {added : Except Failure Unit × Desk}
    (performed : (addDelegation user port portType name source).perform around ⟨b, []⟩ = added)
    (fresh : b.FreshRun (around.writesFrom 0 added.2.trace))
    (saved : b.SavedRun (around.writesFrom 0 added.2.trace)) :
    Decided b port portType name ((target user portType name).perform around ⟨b, []⟩) added := by
  obtain ⟨sound, unique⟩ := reached.sound
  have asked : target user portType name = (ofExcept (checkDelegation user name
      "find_delegation_target") >>= fun _ => findDeclared user portType name >>= pure) := by
    simp only [target, bind_pure]
  rw [asked, perform_delegation notBlank]
  rw [addDelegation, perform_delegation notBlank] at performed
  cases isBlank : Text.isBlank name with
  | true =>
    rw [isBlank] at performed
    subst performed
    exact .blank isBlank
  | false =>
    rw [isBlank, if_neg Bool.false_ne_true] at performed
    rw [if_neg Bool.false_ne_true]
    cases known : (Desk.mk b []).store.portNamed? name with
    | none =>
      rw [known] at performed
      subst performed
      refine .unknown isBlank fun t stands => ?_
      have known' := (Store.portNamed?_eq_some_iff sound unique).mpr stands
      have known : b.store.portNamed? name = none := known
      rw [known] at known'
      cases known'
    | some t =>
      rw [known] at performed
      have stands := (Store.portNamed?_eq_some_iff sound unique).mp known
      dsimp only at performed ⊢
      by_cases declared : t.hasPortType portType = true
      · have starts : (Desk.mk b []).store.HasType port RelationshipType.portDelegation.end1Type :=
          isPort
        rw [if_pos declared] at performed ⊢
        obtain ⟨done, entities, links⟩ := link_adds RelationshipType.find?_portDelegation rfl
          granted starts stands.hasType performed (Desk.along_of_performed fresh)
          (Desk.along_of_performed saved)
        obtain ⟨answer, d⟩ := added
        obtain rfl : answer = .ok () := done
        exact .found isBlank stands (Entity.hasPortType_iff.mp declared) entities links
      · rw [if_neg declared] at performed ⊢
        subst performed
        exact .other isBlank stands fun declares => declared (Entity.hasPortType_iff.mpr declares)

/-- The question for a target changes nothing and is answered with the port that the name stands for,
provided that it is of the declared type. A delegation succeeds if and only if the question does. Then
it links the port to that target and changes nothing else, and otherwise it changes nothing at all and
fails for the same reason. -/
theorem delegation_follows_its_check (reached : b.store.Reached) {id : SourceId}
    (notBlank : Text.isBlank user = false) (granted : around.registry.resolve user source = .ok id)
    {port : EntityId} (isPort : b.store.HasType port TypeName.port) (portType : PortType)
    (name : String) :
    let found := (target user portType name).perform around ⟨b, []⟩
    let added := (addDelegation user port portType name source).perform around ⟨b, []⟩
    b.FreshRun (around.writesFrom 0 added.2.trace) →
    b.SavedRun (around.writesFrom 0 added.2.trace) →
    found.2 = ⟨b, []⟩ ∧
    (∀ t, found.1 = .ok t ↔
      Text.isBlank name = false ∧ b.store.StandsFor name t ∧ t.Declares portType) ∧
    (added.1 = .ok () ↔ ∃ t, found.1 = .ok t) ∧
    (∀ t, found.1 = .ok t → added.2.store.entities = b.store.entities ∧
      ∀ typeName start finish, added.2.store.Linked typeName start finish ↔
        b.store.Linked typeName start finish ∨
          (typeName = TypeName.portDelegation ∧ start = port ∧ finish = t.id)) ∧
    ∀ e, found.1 = .error e → added.2 = ⟨b, []⟩ ∧
      ((Text.isBlank name = true ∧
          e = .invalidParameter Parameter.delegatesTo "find_delegation_target" ∧
          added.1 =
            .error (.invalidParameter Parameter.delegatesTo "add_port_delegation_relationship")) ∨
        (Text.isBlank name = false ∧ added.1 = .error e ∧
          (((∀ t, ¬ b.store.StandsFor name t) ∧ e = .portNotFound name) ∨
            ∃ t, b.store.StandsFor name t ∧ ¬ t.Declares portType ∧
              e = .invalidPortType name (t.portSymbol?.getD "")))) := by
  intro found added fresh saved
  obtain ⟨sound, unique⟩ := reached.sound
  have decided : Decided b port portType name found added :=
    decided reached notBlank granted isPort portType name rfl fresh saved
  exact ⟨decided.desk_eq, fun t => decided.target_iff sound unique, decided.success_iff,
    fun t told => decided.effect told, fun e told => decided.refusal told⟩

/-- A process with an implementation and an alias of one name, and another implementation. The alias
is stored with a type in small letters. -/
def shadowed : List Issued :=
  let who : Caller := ⟨"steward", ⟨⟨.zero⟩, "engine"⟩⟩
  let owner : Ownership := ⟨⟨.ofParts 0 0⟩, TypeName.processPort⟩
  [⟨.ofClock .epoch 0, who,
      .createEntity TypeName.process (.ofList [(PropertyName.qualifiedName, .text "p")]) none⟩,
   ⟨.ofClock .epoch 2, who, .createEntity TypeName.portImplementation
      (Port.plain "a" "a" .input).properties (some owner)⟩,
   ⟨.ofClock .epoch 4, who, .createEntity TypeName.portAlias
      (.ofList [(PropertyName.qualifiedName, .text "a"),
        (PropertyName.portType, .symbol 2 "output_port")]) (some owner)⟩,
   ⟨.ofClock .epoch 6, who, .createEntity TypeName.portImplementation
      (Port.plain "b" "b" .input).properties (some owner)⟩]

/-- The alias is the target, so that the type of the implementation that it hides is refused. -/
theorem delegation_follows_its_check_sample :
    let b : Backend := .memory (Store.empty.run shadowed)
    let around := Surroundings.sample 8
    let port : EntityId := ⟨.ofParts 0 6⟩
    let found (portType : PortType) := (target "steward" portType "a").perform around ⟨b, []⟩
    let added (portType : PortType) :=
      (addDelegation "steward" port portType "a" "engine").perform around ⟨b, []⟩
    (found .output).1.map Entity.id = .ok ⟨.ofParts 0 4⟩ ∧ (added .output).1 = .ok () ∧
      (found .input).1 = .error (.invalidPortType "a" "output_port") ∧
      (added .input).1 = .error (.invalidPortType "a" "output_port") ∧
      (added .input).2 = ⟨b, []⟩ := by
  intro b around port found added
  have reached : b.store.Reached := ⟨shadowed, by decide +kernel, rfl⟩
  have isPort : b.store.HasType port TypeName.port := by decide +kernel
  have notBlank : Text.isBlank "steward" = false := by decide
  have granted : around.registry.resolve "steward" "engine" = .ok ⟨.zero⟩ := by decide
  have follows (portType : PortType) :=
    delegation_follows_its_check reached notBlank granted isPort portType "a"
  have undisturbed (portType : PortType) :
      b.FreshRun (around.writesFrom 0 (added portType).2.trace) ∧
        b.SavedRun (around.writesFrom 0 (added portType).2.trace) := by
    cases portType <;> decide +kernel
  have answered : (found .output).1.map Entity.id = .ok ⟨.ofParts 0 4⟩ := by decide +kernel
  obtain ⟨t, told, _⟩ := Except.map_eq_ok_iff.mp answered
  obtain ⟨_, _, succeeds, _⟩ := (undisturbed .output).elim (follows .output)
  obtain ⟨_, _, _, _, refuses⟩ := (undisturbed .input).elim (follows .input)
  have refused : (found .input).1 = .error (.invalidPortType "a" "output_port") := by decide +kernel
  obtain ⟨same, reason⟩ := refuses _ refused
  refine ⟨answered, succeeds.mpr ⟨t, told⟩, refused, ?_, same⟩
  rcases reason with ⟨isBlank, _⟩ | ⟨_, failed, _⟩
  · cases isBlank
  · exact failed

end PortOperation

end LineagePorts
