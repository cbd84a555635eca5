import LineagePorts.Proofs.Operation.Delegation

/-!
# The two readers of a stored port type

Whoever shows a port takes its stored type as a text to be read, with white space around it. The
check of a delegation compares the stored symbol with the symbol of the declared type instead. Both
look past the case of letters, and so they agree on every symbol without white space around it. A
symbol with white space around it is shown as a type that no delegation can declare.
-/

namespace LineagePorts

namespace Text

/-- White space has no case. -/
theorem no_space_of_sameUpToCase {a b : String} (same : sameUpToCase a b = true)
    (none : ∀ c ∈ a.toList, isSpace c = false) : ∀ c ∈ b.toList, isSpace c = false := by
  intro c mem
  have lower : c.toLower ∈ a.toList.map Char.toLower := by
    rw [of_decide_eq_true same]
    exact List.mem_map_of_mem mem
  obtain ⟨d, other, equal⟩ := List.mem_map.mp lower
  rw [← isSpace_toLower, ← equal, isSpace_toLower]
  exact none d other

end Text

namespace PortType

theorem hasName_unique {t u : PortType} {name : String} (first : t.hasName name = true)
    (second : u.hasName name = true) : t = u := by
  have all : ∀ t ∈ PortType.all, ∀ u ∈ PortType.all,
      t.symbol.toList.map Char.toLower = u.symbol.toList.map Char.toLower → t = u := by
    decide
  exact all t (mem_all t) u (mem_all u)
    ((of_decide_eq_true first).trans (of_decide_eq_true second).symm)

theorem hasName_of_ofText? {s : String} {t : PortType} (read : ofText? s = some t) :
    t.hasName (String.ofList (Text.trim s.toList)) = true := by
  have named := List.find?_some read
  exact named

theorem ofText?_eq_some_iff {s : String} {t : PortType} :
    ofText? s = some t ↔ t.hasName (String.ofList (Text.trim s.toList)) = true := by
  constructor
  · exact hasName_of_ofText?
  · intro named
    cases read : ofText? s with
    | none => exact absurd named (List.find?_eq_none.mp read t (mem_all t))
    | some u => rw [hasName_unique (hasName_of_ofText? read) named]

/-- A name that is that of a port type has no white space around it. -/
theorem trim_of_hasName {t : PortType} {name : String} (named : t.hasName name = true) :
    Text.trim name.toList = name.toList := by
  refine Text.trim_of_no_space (Text.no_space_of_sameUpToCase named ?_)
  cases t <;> simp [symbol, Text.isSpace]

end PortType

namespace Entity

variable {e : Entity} {p : Port}

theorem portSymbol?_of_port? (shown : e.port? = some p) :
    ∃ symbol, e.portSymbol? = some symbol ∧ PortType.ofText? symbol = some p.portType := by
  rw [port?] at shown
  obtain ⟨symbol, stored, rest⟩ := Option.bind_eq_some_iff.mp shown
  obtain ⟨type, read, rest⟩ := Option.bind_eq_some_iff.mp rest
  obtain ⟨name, -, rest⟩ := Option.bind_eq_some_iff.mp rest
  obtain ⟨display, -, made⟩ := Option.bind_eq_some_iff.mp rest
  obtain rfl := Option.some.inj made
  exact ⟨symbol, stored, read⟩

/-- The stored type is the declared one when it is shown as such and has no white space around it. -/
theorem hasPortType_iff_of_ofText? {symbol : String} {type t : PortType}
    (stored : e.portSymbol? = some symbol) (read : PortType.ofText? symbol = some type) :
    e.hasPortType t = true ↔ t = type ∧ Text.trim symbol.toList = symbol.toList := by
  have named := PortType.ofText?_eq_some_iff.mp read
  rw [hasPortType, stored, Option.any_some]
  constructor
  · intro declared
    have bare := PortType.trim_of_hasName declared
    rw [bare, String.ofList_toList] at named
    exact ⟨PortType.hasName_unique declared named, bare⟩
  · rintro ⟨rfl, bare⟩
    rwa [bare, String.ofList_toList] at named

end Entity

namespace PortOperation

variable {user name : String} {around : Surroundings} {d d' : Desk} {e : Entity} {p : Port}

/-- A delegation to a stored port may declare the type that the port is shown with, and no other. It
is refused this one, too, when the stored symbol has white space around it. -/
theorem target_of_shown (resolves : (find user name).perform around d = (.ok (some e), d'))
    (shown : e.port? = some p) :
    ∃ symbol, e.portSymbol? = some symbol ∧ ∀ t, ((target user t name).perform around d).1 =
      if t = p.portType ∧ Text.trim symbol.toList = symbol.toList then .ok e
      else .error (.invalidPortType name symbol) := by
  obtain ⟨symbol, stored, read⟩ := Entity.portSymbol?_of_port? shown
  obtain ⟨user_notBlank, name_notBlank⟩ := find_notBlank resolves
  refine ⟨symbol, stored, fun t => ?_⟩
  have asked : target user t name = (Operation.ofExcept (checkDelegation user name
      "find_delegation_target") >>= fun _ => findDeclared user t name >>= pure) := by
    simp only [target, bind_pure]
  rw [asked, perform_delegation user_notBlank, if_neg (by simp [name_notBlank]),
    ← find_answers resolves]
  dsimp only
  simp only [Entity.hasPortType_iff_of_ofText? stored read, stored, Option.getD_some]
  split <;> rfl

/-- The caller of another client of the store. -/
def foreigner : Caller := ⟨"steward", ⟨⟨.zero⟩, "engine"⟩⟩

def foreignProperties (name symbol : String) : Properties :=
  .ofList [(PropertyName.qualifiedName, .text name), (PropertyName.displayName, .text name),
    (PropertyName.portType, .symbol 1 symbol)]

def foreignPort (random : Nat) (name symbol : String) : Entity :=
  Store.newEntity (.ofClock .epoch random) foreigner TypeName.portImplementation
    (foreignProperties name symbol)

/-- A process with two implementations, one with a type after white space and one with a type in
small letters. -/
def foreign : List Issued :=
  let owned (name symbol : String) : Store.Call :=
    .createEntity TypeName.portImplementation (foreignProperties name symbol)
      (some ⟨⟨.ofParts 0 0⟩, TypeName.processPort⟩)
  [⟨.ofClock .epoch 0, foreigner,
      .createEntity TypeName.process (.ofList [(PropertyName.qualifiedName, .text "p")]) none⟩,
   ⟨.ofClock .epoch 2, foreigner, owned "a" " INPUT_PORT"⟩,
   ⟨.ofClock .epoch 4, foreigner, owned "b" "input_port"⟩]

/-- Both are shown as inputs, but only the second can be delegated to as an input. -/
theorem target_of_shown_sample :
    let d : Desk := ⟨.memory (Store.empty.run foreign), []⟩
    let around := Surroundings.sample 6
    let found (name : String) (t : PortType) := ((target "steward" t name).perform around d).1
    (foreignPort 2 "a" " INPUT_PORT").port? = some (.plain "a" "a" .input) ∧
      (∀ t, found "a" t = .error (.invalidPortType "a" " INPUT_PORT")) ∧
      (foreignPort 4 "b" "input_port").port? = some (.plain "b" "b" .input) ∧
      found "b" .input = .ok (foreignPort 4 "b" "input_port") ∧
      found "b" .output = .error (.invalidPortType "b" "input_port") := by
  intro d around found
  have first : (find "steward" "a").perform around d =
      (.ok (some (foreignPort 2 "a" " INPUT_PORT")), d) := by decide +kernel
  have second : (find "steward" "b").perform around d =
      (.ok (some (foreignPort 4 "b" "input_port")), d) := by decide +kernel
  have shown : (foreignPort 2 "a" " INPUT_PORT").port? = some (.plain "a" "a" .input) := by
    decide +kernel
  have shown' : (foreignPort 4 "b" "input_port").port? = some (.plain "b" "b" .input) := by
    decide +kernel
  obtain ⟨symbol, stored, asked⟩ := target_of_shown first shown
  obtain ⟨symbol', stored', asked'⟩ := target_of_shown second shown'
  obtain rfl : " INPUT_PORT" = symbol := Option.some.inj stored
  obtain rfl : "input_port" = symbol' := Option.some.inj stored'
  refine ⟨shown, fun t => ?_, shown', ?_, ?_⟩
  · exact (asked t).trans (if_neg fun same => absurd same.2 (by decide))
  · exact (asked' .input).trans (if_pos (by decide))
  · exact (asked' .output).trans (if_neg (by decide))

/-- White space around the stored symbol makes the two readers differ. -/
theorem shown_type_refused : ¬ ∀ (user name : String) (around : Surroundings) (d d' : Desk)
    (e : Entity) (p : Port) (t : PortType),
    (find user name).perform around d = (.ok (some e), d') → e.port? = some p →
      (((target user t name).perform around d).1 = .ok e ↔ t = p.portType) := by
  intro agree
  let d : Desk := ⟨.memory (Store.empty.run foreign), []⟩
  have refused : ((target "steward" .input "a").perform (.sample 6) d).1 =
      .error (.invalidPortType "a" " INPUT_PORT") := by decide +kernel
  have accepted := (agree "steward" "a" (.sample 6) d d (foreignPort 2 "a" " INPUT_PORT")
    (.plain "a" "a" .input) .input (by decide +kernel) (by decide +kernel)).mpr rfl
  rw [refused] at accepted
  cases accepted

end PortOperation

end LineagePorts
