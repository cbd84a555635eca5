import LineagePorts.Wiring
import Mathlib.Data.List.Induction
import Mathlib.Data.List.Nodup

/-!
# The history of a registry

The two halves of a record age apart: its identifier is that of the first registration of the name, and
its users are those of the last one. Whatever registrations led to a registry, these two decide what it
answers for the name, and no registration of another name has a part in that.
-/

namespace LineagePorts

/-- A registration, with the identifier that is generated if the name is new. -/
inductive Registration where
  | register (fresh : SourceId) (qualifiedName : String)
  | registerFor (fresh : SourceId) (qualifiedName : String) (authorizedUsers : Option (List String))

namespace Registration

def name : Registration → String
  | .register _ name => name
  | .registerFor _ name _ => name

def fresh : Registration → SourceId
  | .register fresh _ => fresh
  | .registerFor fresh _ _ => fresh

/-- The users that the source is restricted to, if it is restricted. -/
def users : Registration → Option (List String)
  | .register _ _ => none
  | .registerFor _ _ users => users

def perform (r : Registry) : Registration → SourceId × Registry
  | .register fresh name => r.register fresh name
  | .registerFor fresh name users => r.registerFor fresh name users

theorem perform_eq (c : Registration) (r : Registry) :
    c.perform r = r.registerFor c.fresh c.name c.users := by
  cases c <;> rfl

/-- The last registration of a name. -/
def last? (history : List Registration) (name : String) : Option Registration :=
  history.reverse.find? fun c => c.name = name

theorem last?_append (history : List Registration) (c : Registration) (name : String) :
    last? (history ++ [c]) name = if c.name = name then some c else last? history name := by
  rw [last?, List.reverse_append, List.reverse_singleton, List.singleton_append, List.find?_cons]
  by_cases same : c.name = name <;> simp [same, last?]

theorem last?_eq_none_iff {history : List Registration} {name : String} :
    last? history name = none ↔ ∀ c ∈ history, c.name ≠ name := by
  simp [last?, List.find?_eq_none]

/-- The last registration of the name gave a list of users, and the user is not on it. -/
def Excludes (history : List Registration) (name user : String) : Prop :=
  ∃ c users, last? history name = some c ∧ c.users = some users ∧ user ∉ users

end Registration

namespace Registry

theorem mayActFor_eq_true_iff {user : String} {list? : Option (List String)} :
    mayActFor user list? = true ↔ ∀ users, list? = some users → user ∈ users := by
  cases list? <;> simp [mayActFor]

def after (r : Registry) (c : Registration) : Registry := (c.perform r).2

def run (r : Registry) (history : List Registration) : Registry := history.foldl after r

/-- The name and the answer of each registration. -/
def answers : Registry → List Registration → List (String × SourceId)
  | _, [] => []
  | r, c :: cs => (c.name, (c.perform r).1) :: (r.after c).answers cs

/-- The identifiers that are generated, one for each name that is new. -/
def generated : Registry → List Registration → List SourceId
  | _, [] => []
  | r, c :: cs =>
    (if (r.find? c.name).isSome then [] else [c.fresh]) ++ (r.after c).generated cs

/-- What the first registration of a name answered. -/
def firstAnswer? (history : List Registration) (name : String) : Option SourceId :=
  (empty.answers history).lookup name

theorem qualifiedName_of_find? {r : Registry} {name : String} {s : RegisteredSource}
    (found : r.find? name = some s) : s.qualifiedName = name := by
  have fits := List.find?_some found
  exact of_decide_eq_true fits

section After

variable (r : Registry) (c : Registration)

/-- A registration answers with the identifier that the name has already, or else with the new one. -/
theorem answer_eq :
    (c.perform r).1 = ((r.find? c.name).map RegisteredSource.id).getD c.fresh := by
  rw [c.perform_eq, registerFor]
  cases r.find? c.name <;> rfl

/-- Other users under one name leave the names as they are. -/
theorem find?_replaceUsers (qualifiedName : String) (users : Option (List String)) (name : String) :
    (Registry.mk (r.sources.map fun s =>
      if s.qualifiedName = qualifiedName then { s with authorizedUsers := users } else s)).find? name =
      (r.find? name).map fun s =>
        if qualifiedName = name then { s with authorizedUsers := users } else s := by
  have sameNames : ((fun s : RegisteredSource => decide (s.qualifiedName = name)) ∘ fun s =>
      if s.qualifiedName = qualifiedName then { s with authorizedUsers := users } else s) =
      fun s => decide (s.qualifiedName = name) := by
    funext s
    dsimp only [Function.comp_apply]
    split <;> rfl
  rw [find?, List.find?_map, sameNames]
  refine Option.map_congr fun s found => ?_
  have named : s.qualifiedName = name := qualifiedName_of_find? found
  simp only [named, eq_comm]

/-- A registration decides the record of its own name and no other one. -/
theorem find?_after (name : String) :
    (r.after c).find? name =
      if c.name = name then some ⟨name, (c.perform r).1, c.users⟩ else r.find? name := by
  rw [after, answer_eq, c.perform_eq, registerFor]
  cases known : r.find? c.name with
  | none =>
    have absent : r.sources.find? (fun s => s.qualifiedName = c.name) = none := known
    by_cases same : c.name = name
    · subst same
      simp [find?, absent]
    · simp [find?, same]
  | some s =>
    dsimp only
    rw [find?_replaceUsers]
    by_cases same : c.name = name
    · subst same
      simp [known, qualifiedName_of_find? known]
    · simp [same]

end After

section History

variable (history : List Registration) (name : String)

theorem answers_append (r : Registry) (history later : List Registration) :
    r.answers (history ++ later) = r.answers history ++ (r.run history).answers later := by
  induction history generalizing r with
  | nil => rfl
  | cons c cs ih =>
    rw [List.cons_append, answers, answers, ih]
    rfl

theorem firstAnswer?_append (c : Registration) :
    firstAnswer? (history ++ [c]) name = (firstAnswer? history name).or
      (if c.name = name then some (c.perform (empty.run history)).1 else none) := by
  rw [firstAnswer?, answers_append, List.lookup_append]
  congr 1
  by_cases same : c.name = name
  · subst same
    simp [answers]
  · have other : (name == c.name) = false := beq_false_of_ne (Ne.symm same)
    simp [answers, List.lookup_cons, same, other]

variable {history name}

theorem firstAnswer?_eq_none_iff :
    firstAnswer? history name = none ↔ ∀ c ∈ history, c.name ≠ name := by
  induction history using List.reverseRecOn with
  | nil => simp [firstAnswer?, answers]
  | append_singleton cs c ih =>
    rw [firstAnswer?_append, Option.or_eq_none_iff, ih, List.forall_mem_append,
      List.forall_mem_singleton]
    simp

variable (history name)

/-- The identifier of the first registration and the users of the last one. -/
theorem find?_run :
    (empty.run history).find? name =
      (firstAnswer? history name).bind fun id =>
        (Registration.last? history name).map fun c => ⟨name, id, c.users⟩ := by
  induction history using List.reverseRecOn with
  | nil => rfl
  | append_singleton cs c ih =>
    have run_append : empty.run (cs ++ [c]) = (empty.run cs).after c := List.foldl_concat ..
    rw [run_append, find?_after, firstAnswer?_append, Registration.last?_append]
    by_cases same : c.name = name
    · subst same
      rw [if_pos rfl, if_pos rfl, if_pos rfl, answer_eq, ih]
      cases first : firstAnswer? cs c.name with
      | none => rfl
      | some id =>
        cases last : Registration.last? cs c.name with
        | none =>
          rw [firstAnswer?_eq_none_iff.mpr (Registration.last?_eq_none_iff.mp last)] at first
          cases first
        | some c' => rfl
    · simp [same, ih]

variable {history name}

theorem exists_firstAnswer?_iff :
    (∃ id, firstAnswer? history name = some id) ↔ ∃ c ∈ history, c.name = name := by
  rw [← Option.ne_none_iff_exists', Ne, firstAnswer?_eq_none_iff]
  simp

/-- A name that was registered at last was registered first. -/
theorem exists_firstAnswer?_of_last? {c : Registration}
    (last : Registration.last? history name = some c) : ∃ id, firstAnswer? history name = some id := by
  rw [← Option.ne_none_iff_exists', Ne, firstAnswer?_eq_none_iff, ← Registration.last?_eq_none_iff,
    last]
  exact Option.some_ne_none c

theorem find?_run_eq_some {id : SourceId} (first : firstAnswer? history name = some id) :
    ∃ c, Registration.last? history name = some c ∧
      (empty.run history).find? name = some ⟨name, id, c.users⟩ := by
  rw [find?_run, first]
  cases last : Registration.last? history name with
  | none =>
    rw [firstAnswer?_eq_none_iff.mpr (Registration.last?_eq_none_iff.mp last)] at first
    cases first
  | some c => exact ⟨c, rfl, rfl⟩

end History

section Identifiers

/-- A registry holds the identifiers that were generated for it. -/
theorem ids_after (r : Registry) (c : Registration) :
    (r.after c).sources.map RegisteredSource.id = r.sources.map RegisteredSource.id ++
      if (r.find? c.name).isSome then [] else [c.fresh] := by
  rw [after, c.perform_eq, registerFor]
  cases r.find? c.name with
  | none => simp
  | some s =>
    simp only [List.map_map, Option.isSome_some, if_true, List.append_nil]
    refine List.map_congr_left fun s _ => ?_
    dsimp only [Function.comp_apply]
    split <;> rfl

theorem ids_run (r : Registry) (history : List Registration) :
    (r.run history).sources.map RegisteredSource.id =
      r.sources.map RegisteredSource.id ++ r.generated history := by
  induction history generalizing r with
  | nil => rw [generated, List.append_nil]; rfl
  | cons c cs ih => rw [generated, ← List.append_assoc, ← ids_after, ← ih]; rfl

/-- Two names with one identifier are one name. -/
theorem name_unique {history : List Registration} (distinct : (empty.generated history).Nodup)
    {name other : String} {id : SourceId} (first : firstAnswer? history name = some id)
    (first' : firstAnswer? history other = some id) : name = other := by
  obtain ⟨c, _, found⟩ := find?_run_eq_some first
  obtain ⟨c', _, found'⟩ := find?_run_eq_some first'
  have ids : ((empty.run history).sources.map RegisteredSource.id).Nodup := by
    rw [ids_run]
    exact distinct
  have same := List.inj_on_of_nodup_map ids (List.mem_of_find?_eq_some found)
    (List.mem_of_find?_eq_some found') rfl
  exact congrArg RegisteredSource.qualifiedName same

end Identifiers

end Registry

namespace Config

/-- The last entry of a name among the external sources. -/
def lastSource? (c : Config) (name : String) : Option SourceConfig :=
  c.externalSources.reverse.find? fun s => s.qualifiedName = name

/-- The registrations that wire the registry. -/
def registrations (c : Config) (fresh : Nat → SourceId) : List Registration :=
  c.externalSources.zipIdx.map fun (s, n) =>
    .registerFor (fresh n) s.qualifiedName s.authorizedUsers

theorem registry_eq_run (c : Config) (fresh : Nat → SourceId) :
    c.registry fresh = Registry.empty.run (c.registrations fresh) := by
  rw [registry, registrations, Registry.run, List.foldl_map]
  rfl

theorem users_last?_registrations (c : Config) (fresh : Nat → SourceId) (name : String) :
    (Registration.last? (c.registrations fresh) name).map Registration.users =
      (c.lastSource? name).map SourceConfig.authorizedUsers := by
  rw [registrations, lastSource?]
  induction c.externalSources using List.reverseRecOn with
  | nil => rfl
  | append_singleton sources s ih =>
    rw [List.zipIdx_append, List.map_append, List.zipIdx_singleton, List.map_singleton,
      Registration.last?_append, List.reverse_append, List.reverse_singleton,
      List.singleton_append, List.find?_cons, Registration.name]
    by_cases same : s.qualifiedName = name
    · simp [same, Registration.users]
    · simp [same, ih]

theorem registry_of_wire {c : Config} {disk : FileSystem} {fresh : Nat → SourceId} {w : Wired}
    (wired : c.wire disk fresh = .ok w) : w.registry = c.registry fresh := by
  rw [wire] at wired
  cases opened : c.openStore disk with
  | error e =>
    rw [opened] at wired
    cases wired
  | ok b =>
    rw [opened] at wired
    obtain rfl := Except.ok.inj wired
    rfl

end Config

namespace Registry

section Answers

variable {history : List Registration} {user name : String}

theorem resolve_of_never (never : ∀ c ∈ history, c.name ≠ name) :
    (empty.run history).resolve user name = .error (.server (.sourceNotRegistered name)) := by
  rw [resolve, find?_run, firstAnswer?_eq_none_iff.mpr never]
  rfl

theorem resolve_of_excludes (excludes : Registration.Excludes history name user) :
    (empty.run history).resolve user name =
      .error (.userNotAuthorized user ("act on behalf of external source " ++ name)) := by
  obtain ⟨c, users, last, given, absent⟩ := excludes
  obtain ⟨id, first⟩ := exists_firstAnswer?_of_last? last
  rw [resolve, find?_run, first, last]
  have refused : mayActFor user c.users = false := by
    rw [given]
    exact decide_eq_false absent
  show (if mayActFor user c.users then _ else _) = _
  rw [refused]
  rfl

theorem resolve_of_not_excludes {id : SourceId} (first : firstAnswer? history name = some id)
    (included : ¬ Registration.Excludes history name user) :
    (empty.run history).resolve user name = .ok id := by
  obtain ⟨c, last, found⟩ := find?_run_eq_some first
  have admitted : mayActFor user c.users = true := by
    refine mayActFor_eq_true_iff.mpr fun users given => ?_
    exact Decidable.byContradiction fun absent => included ⟨c, users, last, given, absent⟩
  rw [resolve, found]
  exact if_pos admitted

/-- These three cases are all there are. -/
theorem resolve_cases (history : List Registration) (user name : String) :
    (∀ c ∈ history, c.name ≠ name) ∨ Registration.Excludes history name user ∨
      ∃ id, firstAnswer? history name = some id ∧ ¬ Registration.Excludes history name user := by
  cases first : firstAnswer? history name with
  | none => exact .inl (firstAnswer?_eq_none_iff.mp first)
  | some id =>
    by_cases excludes : Registration.Excludes history name user
    · exact .inr (.inl excludes)
    · exact .inr (.inr ⟨id, rfl, excludes⟩)

theorem resolve_eq_ok_iff {id : SourceId} :
    (empty.run history).resolve user name = .ok id ↔
      firstAnswer? history name = some id ∧ ¬ Registration.Excludes history name user := by
  constructor
  · intro resolved
    rcases resolve_cases history user name with never | excludes | ⟨id', first, included⟩
    · rw [resolve_of_never never] at resolved
      cases resolved
    · rw [resolve_of_excludes excludes] at resolved
      cases resolved
    · rw [resolve_of_not_excludes first included] at resolved
      obtain rfl := Except.ok.inj resolved
      exact ⟨first, included⟩
  · rintro ⟨first, included⟩
    exact resolve_of_not_excludes first included

theorem resolve_eq_server_iff :
    (∃ fault, (empty.run history).resolve user name = .error (.server fault)) ↔
      ∀ c ∈ history, c.name ≠ name := by
  constructor
  · rintro ⟨fault, resolved⟩
    rcases resolve_cases history user name with never | excludes | ⟨id, first, included⟩
    · exact never
    · rw [resolve_of_excludes excludes] at resolved
      cases resolved
    · rw [resolve_of_not_excludes first included] at resolved
      cases resolved
  · exact fun never => ⟨_, resolve_of_never never⟩

theorem resolve_eq_notAuthorized_iff {blamed : String} :
    (∃ action, (empty.run history).resolve user name = .error (.userNotAuthorized blamed action)) ↔
      blamed = user ∧ Registration.Excludes history name user := by
  constructor
  · rintro ⟨action, resolved⟩
    rcases resolve_cases history user name with never | excludes | ⟨id, first, included⟩
    · rw [resolve_of_never never] at resolved
      cases resolved
    · rw [resolve_of_excludes excludes] at resolved
      obtain ⟨rfl, _⟩ := Failure.userNotAuthorized.inj (Except.error.inj resolved)
      exact ⟨rfl, excludes⟩
    · rw [resolve_of_not_excludes first included] at resolved
      cases resolved
  · rintro ⟨rfl, excludes⟩
    exact ⟨_, resolve_of_excludes excludes⟩

theorem resolve_after_other (r : Registry) {c : Registration} (other : c.name ≠ name) :
    (r.after c).resolve user name = r.resolve user name := by
  rw [resolve, resolve, find?_after, if_neg other]

/-- A configured source grants what its last entry says. -/
theorem resolve_wired_iff {config : Config} {disk : FileSystem} {fresh : Nat → SourceId} {w : Wired}
    (wired : config.wire disk fresh = .ok w) :
    (∃ id, w.registry.resolve user name = .ok id) ↔ ∃ s, config.lastSource? name = some s ∧
      ∀ users, s.authorizedUsers = some users → user ∈ users := by
  rw [Config.registry_of_wire wired, Config.registry_eq_run]
  have users := config.users_last?_registrations fresh name
  generalize config.registrations fresh = history at users ⊢
  simp only [resolve_eq_ok_iff]
  constructor
  · rintro ⟨id, first, included⟩
    obtain ⟨c, last, _⟩ := find?_run_eq_some first
    rw [last] at users
    obtain ⟨s, listed, same⟩ := Option.map_eq_some_iff.mp users.symm
    refine ⟨s, listed, fun users given => ?_⟩
    exact Decidable.byContradiction fun absent =>
      included ⟨c, users, last, same.symm.trans given, absent⟩
  · rintro ⟨s, listed, admits⟩
    rw [listed] at users
    obtain ⟨c, last, same⟩ := Option.map_eq_some_iff.mp users
    obtain ⟨id, first⟩ := exists_firstAnswer?_of_last? last
    refine ⟨id, first, ?_⟩
    rintro ⟨c', users', last', given, absent⟩
    obtain rfl := Option.some.inj (last.symm.trans last')
    exact absent (admits users' (same.symm.trans given))

end Answers

/-- Whatever sources were registered in whatever order, and however often: a name that was never
registered is unknown; a user who is not on the list of the last registration of the name is refused;
and everybody else gets the identifier that the first registration answered. Other names have other
identifiers and no part in the answer. So a configured source is open to those whom its last entry
admits. -/
theorem answers_by_history (history : List Registration) (user name : String) :
    let r := empty.run history
    ((∃ fault, r.resolve user name = .error (.server fault)) ↔ ∀ c ∈ history, c.name ≠ name) ∧
    (∀ blamed, (∃ action, r.resolve user name = .error (.userNotAuthorized blamed action)) ↔
      blamed = user ∧ Registration.Excludes history name user) ∧
    ((∃ c ∈ history, c.name = name) → ¬ Registration.Excludes history name user →
      ∃ id, firstAnswer? history name = some id ∧ r.resolve user name = .ok id) ∧
    (∀ c : Registration, c.name ≠ name → (r.after c).resolve user name = r.resolve user name) ∧
    ((empty.generated history).Nodup → ∀ other id, firstAnswer? history name = some id →
      firstAnswer? history other = some id → name = other) ∧
    ∀ (config : Config) (disk : FileSystem) (fresh : Nat → SourceId) (w : Wired),
      config.wire disk fresh = .ok w →
      ((∃ id, w.registry.resolve user name = .ok id) ↔ ∃ s, config.lastSource? name = some s ∧
        ∀ users, s.authorizedUsers = some users → user ∈ users) := by
  refine ⟨resolve_eq_server_iff, fun _ => resolve_eq_notAuthorized_iff, ?otherwise,
    fun c other => resolve_after_other _ other,
    fun distinct other id first first' => name_unique distinct first first',
    fun config disk fresh w wired => resolve_wired_iff wired⟩
  case otherwise =>
    intro registered included
    obtain ⟨id, first⟩ := exists_firstAnswer?_iff.mpr registered
    exact ⟨id, first, resolve_of_not_excludes first included⟩

/-- One source is opened to all after it was restricted, another is closed to all in the end. -/
theorem answers_by_history_sample :
    let id (n : Nat) : SourceId := ⟨.ofParts 0 n⟩
    let history : List Registration :=
      [.registerFor (id 0) "engine" (some ["steward", "steward"]), .register (id 1) "loader",
        .register (id 2) "engine", .registerFor (id 3) "loader" (some [])]
    let config : Config := ⟨"steward", Config.defaultFilter, .memory,
      [⟨"engine", none⟩, ⟨"loader", none⟩, ⟨"engine", some ["steward"]⟩], none⟩
    let wired : Wired := ⟨.memory .empty, config.registry id⟩
    let r := empty.run history
    (∃ id, firstAnswer? history "engine" = some id ∧ r.resolve "guest" "engine" = .ok id) ∧
      (∃ action, r.resolve "guest" "loader" = .error (.userNotAuthorized "guest" action)) ∧
      (∃ fault, r.resolve "guest" "mill" = .error (.server fault)) ∧
      (r.after (.register (id 4) "mill")).resolve "guest" "loader" = r.resolve "guest" "loader" ∧
      (empty.generated history).Nodup ∧
      firstAnswer? history "engine" = some (id 0) ∧ firstAnswer? history "loader" ≠ some (id 0) ∧
      config.wire (.only "d") id = .ok wired ∧
      (∃ id, wired.registry.resolve "steward" "engine" = .ok id) ∧
      ¬ ∃ id, wired.registry.resolve "guest" "engine" = .ok id := by
  intro id history config wired r
  obtain ⟨_, _, granted, _, distinct, _⟩ := answers_by_history history "guest" "engine"
  obtain ⟨_, refused, _, apart, _⟩ := answers_by_history history "guest" "loader"
  obtain ⟨unknown, _⟩ := answers_by_history history "guest" "mill"
  have wires : config.wire (.only "d") id = .ok wired := rfl
  have generated : (empty.generated history).Nodup := by decide +kernel
  have first : firstAnswer? history "engine" = some (id 0) := by decide +kernel
  have admits (user : String) : (∃ id, wired.registry.resolve user "engine" = .ok id) ↔
      ∃ s, config.lastSource? "engine" = some s ∧
        ∀ users, s.authorizedUsers = some users → user ∈ users :=
    (answers_by_history history user "engine").2.2.2.2.2 config (.only "d") id wired wires
  refine ⟨granted ⟨_, List.mem_cons_self, rfl⟩ ?_, (refused "guest").mpr ⟨rfl, ?_⟩,
    unknown.mpr (by decide), apart (.register (id 4) "mill") (by decide), generated, first,
    fun same => absurd (distinct generated "loader" (id 0) first same) (by decide), wires,
    (admits "steward").mpr ?_, fun resolved => ?_⟩
  · rintro ⟨c, users, last, given, _⟩
    obtain rfl : .register (id 2) "engine" = c := Option.some.inj last
    cases given
  · exact ⟨.registerFor (id 3) "loader" (some []), [], rfl, rfl, List.not_mem_nil⟩
  · refine ⟨⟨"engine", some ["steward"]⟩, rfl, fun users given => ?_⟩
    obtain rfl := Option.some.inj given
    exact List.mem_cons_self
  · obtain ⟨s, listed, admitted⟩ := (admits "guest").mp resolved
    obtain rfl : ⟨"engine", some ["steward"]⟩ = s := Option.some.inj listed
    exact absurd (admitted ["steward"] rfl) (by decide)

end Registry

end LineagePorts
