import LineagePorts.Proofs.Identifier.Digits
import LineagePorts.Proofs.Store.Codec

/-!
# Which texts are identifiers

An identifier is read from a text exactly when the text is a numeral of 26 digits with white space
around it and with or without the label of its kind in front. No digit is white space, and each
label ends in a character that is no digit, so that neither trimming nor taking the label away can
touch the numeral. The check of a parameter and the reader of stored records read nothing else.
-/

namespace LineagePorts

namespace Id

variable {kind : IdKind}

/-- The text is `cs` with white space around it, and with or without the label of the kind. -/
def Wraps (kind : IdKind) (s : String) (cs : List Char) : Prop :=
  ∃ before label after, s.toList = before ++ (label ++ cs ++ after) ∧
    (label = [] ∨ label = kind.label.toList) ∧
    (∀ c ∈ before, Text.isSpace c = true) ∧ ∀ c ∈ after, Text.isSpace c = true

theorem isSpace_of_mem_label {label : List Char} (optional : label = [] ∨ label = kind.label.toList) :
    ∀ c ∈ label, Text.isSpace c = false := by
  rcases optional with rfl | rfl
  · intro c mem
    cases mem
  · cases kind <;> simp [IdKind.label, Text.isSpace]

/-- No numeral begins with a label: the hyphen at the end of the label is no digit. -/
theorem dropLabel_of_denotes {cs : List Char} {ds : List Nat}
    (denotes : List.Forall₂ Ulid.Denotes cs ds) : dropLabel kind.label.toList cs = cs := by
  rw [dropLabel, if_neg]
  intro starts
  have inLabel : '-' ∈ kind.label.toList := by
    cases kind <;> simp [IdKind.label]
  have mem : '-' ∈ cs := (List.isPrefixOf_iff_prefix.mp starts).subset inLabel
  exact Ulid.forall_mem_of_denotes Ulid.Denotes.ne_hyphen denotes '-' mem rfl

/-- The numeral in a text is what is left of the trimmed text without the label. -/
theorem wraps_iff {s : String} {cs : List Char} {ds : List Nat} (numeral : Ulid.Numeral cs ds) :
    Wraps kind s cs ↔ dropLabel kind.label.toList (Text.trim s.toList) = cs := by
  constructor
  · rintro ⟨before, label, after, split, optional, spaceBefore, spaceAfter⟩
    have clear : ∀ c ∈ label ++ cs, Text.isSpace c = false := by
      intro c mem
      rcases List.mem_append.mp mem with mem | mem
      · exact isSpace_of_mem_label optional c mem
      · exact numeral.isSpace_eq c mem
    rw [split, Text.trim_surrounded spaceBefore clear spaceAfter]
    rcases optional with rfl | rfl
    · exact dropLabel_of_denotes numeral.denotes
    · exact dropLabel_append _ _
  · intro left
    obtain ⟨before, after, split, spaceBefore, spaceAfter⟩ := Text.exists_trim s.toList
    rw [dropLabel] at left
    split at left
    case isTrue starts =>
      refine ⟨before, kind.label.toList, after, ?_, .inr rfl, spaceBefore, spaceAfter⟩
      rw [← left, List.prefix_iff_eq_append.mp (List.isPrefixOf_iff_prefix.mp starts), ← split]
    case isFalse =>
      refine ⟨before, [], after, ?_, .inl rfl, spaceBefore, spaceAfter⟩
      rw [← left, List.nil_append, ← split]

theorem mk_eq_iff {u : Ulid} {id : Id kind} : ⟨u⟩ = id ↔ u = id.ulid :=
  ⟨congrArg Id.ulid, Id.ext⟩

/-- A text is read as an identifier exactly when it wraps a numeral of that value. -/
theorem ofText_eq_ok_iff {s : String} {id : Id kind} :
    ofText s = .ok id ↔ ∃ cs ds, Wraps kind s cs ∧ Ulid.Numeral cs ds ∧
      id.ulid.value = Ulid.number ds % Ulid.count := by
  have read : ofText s = .ok id ↔
      Ulid.ofText (String.ofList (dropLabel kind.label.toList (Text.trim s.toList))) = .ok id.ulid := by
    rw [ofText]
    cases Ulid.ofText (String.ofList (dropLabel kind.label.toList (Text.trim s.toList))) with
    | error flaw => simp [Except.map]
    | ok u => rw [Except.map, Except.ok.injEq, Except.ok.injEq, mk_eq_iff]
  rw [read, Ulid.ofText_eq_ok_iff, String.toList_ofList]
  constructor
  · rintro ⟨ds, numeral, value⟩
    exact ⟨_, ds, (wraps_iff numeral).mpr rfl, numeral, value⟩
  · rintro ⟨cs, ds, wraps, numeral, value⟩
    rw [(wraps_iff numeral).mp wraps]
    exact ⟨ds, numeral, value⟩

def codec (kind : IdKind) : Codec (Id kind) := ⟨toData, ofData⟩

/-- The JSON text of an identifier is the text of its digits, and these are read as they stand. -/
theorem decode?_eq_some_iff {t : String} {id : Id kind} :
    (codec kind).decode? t = some id ↔
      ∃ s, Json.read t = some (.text s) ∧ Ulid.ofText s = .ok id.ulid := by
  have ofData_iff (d : Data) :
      ofData d = some id ↔ ∃ s, d = .text s ∧ Ulid.ofText s = .ok id.ulid := by
    cases d with
    | text s =>
      rw [ofData, Data.asText, Option.bind_eq_bind, Option.bind_some]
      cases read : Ulid.ofText s with
      | error flaw => simp [read]
      | ok u => simp [read, mk_eq_iff]
    | _ => simp [ofData, Data.asText]
  rw [Codec.decode?, Option.bind_eq_some_iff]
  constructor
  · rintro ⟨d, json, read⟩
    obtain ⟨s, rfl, digits⟩ := (ofData_iff d).mp read
    exact ⟨s, json, digits⟩
  · rintro ⟨s, json, digits⟩
    exact ⟨.text s, json, (ofData_iff _).mpr ⟨s, rfl, digits⟩⟩

/-- Digits with nothing around them are an identifier of any kind. -/
theorem ofText_of_digits {s : String} {u : Ulid} (digits : Ulid.ofText s = .ok u) :
    ofText s = .ok (⟨u⟩ : Id kind) := by
  obtain ⟨ds, numeral, value⟩ := Ulid.ofText_eq_ok_iff.mp digits
  refine ofText_eq_ok_iff.mpr ⟨s.toList, ds, ⟨[], [], [], ?_, .inl rfl, ?_, ?_⟩, numeral, value⟩
  · simp
  · simp
  · simp

/-- What is to be said of the texts of the identifiers of one kind. -/
structure Legible (kind : IdKind) : Prop where
  displayed (id : Id kind) : ofText id.text = .ok id
  /-- The digits alone are read, too, in any letter case and with any white space around. -/
  anyCase {id : Id kind} {s : String} {cs : List Char} (wraps : Wraps kind s cs)
    (same : cs.map Char.toUpper = id.ulid.text.toList.map Char.toUpper) : ofText s = .ok id
  /-- Nothing but numerals is read. -/
  exact {id : Id kind} {s : String} : ofText s = .ok id ↔ ∃ cs ds, Wraps kind s cs ∧
    Ulid.Numeral cs ds ∧ id.ulid.value = Ulid.number ds % Ulid.count
  /-- The first of the 26 digits counts modulo 8, and of the others only the case does not count. -/
  unambiguous {s t : String} {c b : Char} {cs bs : List Char} {d e : Nat} {ds es : List Nat}
    (wraps : Wraps kind s (c :: cs)) (numeral : Ulid.Numeral (c :: cs) (d :: ds))
    (wraps' : Wraps kind t (b :: bs)) (numeral' : Ulid.Numeral (b :: bs) (e :: es)) :
    (ofText s : Except Ulid.Flaw (Id kind)) = ofText t ↔
      d % 8 = e % 8 ∧ cs.map Char.toUpper = bs.map Char.toUpper
  stored : (codec kind).Faithful
  /-- What is read from JSON is a text that is read as an identifier just as well. -/
  decoded {t : String} {id : Id kind} (read : (codec kind).decode? t = some id) :
    ∃ s, Json.read t = some (.text s) ∧ ofText s = .ok id

theorem legible (kind : IdKind) : Legible kind := by
  constructor
  case displayed => exact ofText_text
  case exact => exact ofText_eq_ok_iff
  case stored => exact Codec.faithful_of_readsBack ofData_toData fun _ => trivial
  case anyCase =>
    intro id s cs wraps same
    obtain ⟨ds, numeral, value⟩ := Ulid.ofText_eq_ok_iff.mp (Ulid.ofText_text id.ulid)
    exact ofText_eq_ok_iff.mpr ⟨cs, ds, wraps, numeral.of_map_toUpper same, value⟩
  case unambiguous =>
    intro s t c b cs bs d e ds es wraps numeral wraps' numeral'
    have first : ofText s = .ok (⟨.ofNat (Ulid.number (d :: ds))⟩ : Id kind) :=
      ofText_eq_ok_iff.mpr ⟨_, _, wraps, numeral, rfl⟩
    have second : ofText t = .ok (⟨.ofNat (Ulid.number (e :: es))⟩ : Id kind) :=
      ofText_eq_ok_iff.mpr ⟨_, _, wraps', numeral', rfl⟩
    rw [first, second, Except.ok.injEq, Id.mk.injEq, Ulid.ofNat_eq_iff,
      numeral.value_eq_iff numeral']
  case decoded =>
    intro t id read
    obtain ⟨s, json, digits⟩ := decode?_eq_some_iff.mp read
    exact ⟨s, json, ofText_of_digits digits⟩

/-- A blank text is too short for an identifier. -/
theorem ofText_of_isBlank {s : String} (blank : Text.isBlank s = true) :
    ofText s = (.error .invalidLength : Except Ulid.Flaw (Id kind)) := by
  rw [ofText, (Text.isBlank_iff_trim s).mp blank]
  cases kind <;> rfl

end Id

/-- The texts of identifiers are known exactly, and a parameter is an identifier by the same rule. -/
theorem identifier_texts :
    (∀ kind, Id.Legible kind) ∧ ∀ text parameter action, Parameter.readId text parameter action =
      (Id.ofText text).mapError fun _ => .invalidParameter parameter action := by
  refine ⟨Id.legible, fun text parameter action => ?_⟩
  rw [Parameter.readId, Parameter.checkName]
  cases blank : Text.isBlank text with
  | true =>
    rw [Id.ofText_of_isBlank blank]
    rfl
  | false =>
    cases Id.ofText text <;> rfl

/-- The two top bits of the first digit do not count. -/
example : (Id.ofText "8zzzzzzzzzzzzzzzzzzzzzzzzz" : Except Ulid.Flaw EntityId) =
    Id.ofText " entity-0ZZZZZZZZZZZZZZZZZZZZZZZZZ\t" := by
  decide +kernel

end LineagePorts
