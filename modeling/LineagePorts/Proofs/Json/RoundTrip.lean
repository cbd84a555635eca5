import LineagePorts.Json.Reader
import LineagePorts.Proofs.Json.Tokens

/-!
# Reading JSON texts

A text denotes data when it spells its tokens, and every text that denotes data is read as that data,
however deep it is nested. Data that has neither fractions nor garbled parts, and integers of at most
64 bits, is denoted by the text that is written for it in either style, and so it is read back.
-/

namespace LineagePorts

namespace Data

mutual

/-- The data is read back from its text as it was written. -/
def Plain : Data → Prop
  | .null => True
  | .bool _ => True
  | .int n => n.natAbs ≤ Json.largestWord
  | .real _ _ => False
  | .text _ => True
  | .list items => PlainItems items
  | .record fields => PlainFields fields
  | .garbled => False

def PlainItems : List Data → Prop
  | [] => True
  | d :: ds => Plain d ∧ PlainItems ds

def PlainFields : List (String × Data) → Prop
  | [] => True
  | (_, d) :: fs => Plain d ∧ PlainFields fs

end

theorem plainItems_iff {ds : List Data} : PlainItems ds ↔ ∀ d ∈ ds, d.Plain := by
  induction ds with
  | nil => simp [PlainItems]
  | cons d ds ih => rw [PlainItems, ih, List.forall_mem_cons]

theorem plainFields_iff {fs : List (String × Data)} : PlainFields fs ↔ ∀ f ∈ fs, f.2.Plain := by
  induction fs with
  | nil => simp [PlainFields]
  | cons f fs ih =>
    obtain ⟨name, d⟩ := f
    rw [PlainFields, ih, List.forall_mem_cons]

end Data

namespace Json

mutual

/-- The tokens of a text that denotes data. -/
def tokensOf : Data → List Token
  | .null => [.null]
  | .bool b => [.bool b]
  | .int n => [.int n]
  | .real m e => [.real m e]
  | .text s => [.text s]
  | .garbled => [.garbled]
  | .list [] => [.openList, .closeList]
  | .list (d :: ds) => .openList :: tokensOf d ++ itemTokens ds ++ [.closeList]
  | .record [] => [.openRecord, .closeRecord]
  | .record (f :: fs) => .openRecord :: fieldTokens f ++ fieldsTokens fs ++ [.closeRecord]

def itemTokens : List Data → List Token
  | [] => []
  | d :: ds => .comma :: tokensOf d ++ itemTokens ds

def fieldTokens : String × Data → List Token
  | (name, d) => .text name :: .colon :: tokensOf d

def fieldsTokens : List (String × Data) → List Token
  | [] => []
  | f :: fs => .comma :: fieldTokens f ++ fieldsTokens fs

end

/-- A JSON text for data: its tokens in some spelling, with any white space between them. -/
def Denotes (text : String) (d : Data) : Prop := Spells (tokensOf d) text.toList

section Writing

variable (style : Style)

/-- What follows the first item of a list, or the first field of a record, does not go on with a
number. -/
theorem endsNumber_items (depth : Nat) (ds : List Data) {rest : List Char}
    (ends : EndsNumber rest) : EndsNumber (writeItems style depth ds ++ rest) := by
  cases ds with
  | nil => exact ends
  | cons d ds => exact endsNumber_cons (.inl rfl)

theorem endsNumber_fields (depth : Nat) (fs : List (String × Data)) {rest : List Char}
    (ends : EndsNumber rest) : EndsNumber (writeFields style depth fs ++ rest) := by
  cases fs with
  | nil => exact ends
  | cons f fs => exact endsNumber_cons (.inl rfl)

mutual

/-- What is written spells the tokens of the data, whatever follows that does not go on with a
number. -/
theorem spells_write (depth : Nat) : (d : Data) → d.Plain → {rest : List Char} →
    {ts : List Token} → EndsNumber rest → Spells ts rest →
    Spells (tokensOf d ++ ts) (write style depth d ++ rest)
  | .null, _, _, _, _, later => later.cons .null id
  | .bool true, _, _, _, _, later => later.cons .trueName id
  | .bool false, _, _, _, _, later => later.cons .falseName id
  | .int n, plain, _, _, ends, later => by
    rw [write]
    exact .token (spelling_signed plain) (fun _ => ends) later
  | .text s, _, _, _, _, later => by
    rw [write]
    exact later.cons (spelling_writeText s) id
  | .list [], _, rest, ts, _, later => by
    rw [write]
    exact (later.cons .closeList id).cons .openList id
  | .list (d :: ds), plain, rest, ts, _, later => by
    have close : Spells (.closeList :: ts) (style.lineBreak depth ++ ']' :: rest) :=
      (later.cons .closeList id).lineBreak style depth
    have closeEnds : EndsNumber (style.lineBreak depth ++ ']' :: rest) :=
      endsNumber_lineBreak (endsNumber_cons (.inr (.inl rfl)))
    have items := spells_writeItems (depth + 1) ds plain.2 closeEnds close
    have first := spells_write (depth + 1) d plain.1 (endsNumber_items style _ ds closeEnds) items
    have opened := (first.lineBreak style (depth + 1)).cons .openList id
    simpa [write, tokensOf] using opened
  | .record [], _, rest, ts, _, later => by
    rw [write]
    exact (later.cons .closeRecord id).cons .openRecord id
  | .record (f :: fs), plain, rest, ts, _, later => by
    have close : Spells (.closeRecord :: ts) (style.lineBreak depth ++ '\x7d' :: rest) :=
      (later.cons .closeRecord id).lineBreak style depth
    have closeEnds : EndsNumber (style.lineBreak depth ++ '\x7d' :: rest) :=
      endsNumber_lineBreak (endsNumber_cons (.inr (.inr rfl)))
    have fields := spells_writeFields (depth + 1) fs plain.2 closeEnds close
    have first := spells_writeField (depth + 1) f plain.1 (endsNumber_fields style _ fs closeEnds)
      fields
    have opened := (first.lineBreak style (depth + 1)).cons .openRecord id
    simpa [write, tokensOf] using opened

theorem spells_writeItems (depth : Nat) : (ds : List Data) → Data.PlainItems ds →
    {rest : List Char} → {ts : List Token} → EndsNumber rest → Spells ts rest →
    Spells (itemTokens ds ++ ts) (writeItems style depth ds ++ rest)
  | [], _, _, _, _, later => later
  | d :: ds, plain, rest, ts, ends, later => by
    have items := spells_writeItems depth ds plain.2 ends later
    have first := spells_write depth d plain.1 (endsNumber_items style _ ds ends) items
    have comma := (first.lineBreak style depth).cons .comma id
    simpa [writeItems, itemTokens] using comma

theorem spells_writeField (depth : Nat) : (f : String × Data) → f.2.Plain →
    {rest : List Char} → {ts : List Token} → EndsNumber rest → Spells ts rest →
    Spells (fieldTokens f ++ ts) (writeField style depth f ++ rest)
  | (name, d), plain, rest, ts, ends, later => by
    have value := spells_write depth d plain ends later
    have named := (value.colon style).cons (spelling_writeText name) id
    simpa [writeField, fieldTokens] using named

theorem spells_writeFields (depth : Nat) : (fs : List (String × Data)) → Data.PlainFields fs →
    {rest : List Char} → {ts : List Token} → EndsNumber rest → Spells ts rest →
    Spells (fieldsTokens fs ++ ts) (writeFields style depth fs ++ rest)
  | [], _, _, _, _, later => later
  | f :: fs, plain, rest, ts, ends, later => by
    have fields := spells_writeFields depth fs plain.2 ends later
    have first := spells_writeField depth f plain.1 (endsNumber_fields style _ fs ends) fields
    have comma := (first.lineBreak style depth).cons .comma id
    simpa [writeFields, fieldsTokens] using comma

end

/-- What is written for plain data denotes it. -/
theorem denotes_write {d : Data} (plain : d.Plain) :
    Denotes (String.ofList (write style 0 d)) d := by
  have ends : EndsNumber [] := by
    intro c mem
    cases mem
  have spells := spells_write style 0 d plain ends .nil
  rw [List.append_nil, List.append_nil] at spells
  rwa [Denotes, String.toList_ofList]

end Writing

section Building

open Builder (step)

/-- The first token of data opens a value and closes nothing. -/
theorem tokensOf_eq_cons (d : Data) : ∃ t ts, tokensOf d = t :: ts ∧ t ≠ .closeList := by
  cases d with
  | list items => cases items <;> exact ⟨_, _, rfl, nofun⟩
  | record fields => cases fields <;> exact ⟨_, _, rfl, nofun⟩
  | null => exact ⟨_, _, rfl, nofun⟩
  | bool b => exact ⟨_, _, rfl, nofun⟩
  | int n => exact ⟨_, _, rfl, nofun⟩
  | real m e => exact ⟨_, _, rfl, nofun⟩
  | text s => exact ⟨_, _, rfl, nofun⟩
  | garbled => exact ⟨_, _, rfl, nofun⟩

/-- The first item of a list is built like any value. -/
theorem build_firstItem (d : Data) (done : List Data) (stack : List Frame) :
    (tokensOf d).foldlM step ⟨.firstItem, .list done :: stack⟩ =
      (tokensOf d).foldlM step ⟨.value, .list done :: stack⟩ := by
  obtain ⟨t, ts, split, notClose⟩ := tokensOf_eq_cons d
  have same : step ⟨.firstItem, .list done :: stack⟩ t = step ⟨.value, .list done :: stack⟩ t := by
    rw [step, step]
    dsimp only
    rw [if_neg notClose]
  rw [split, List.foldlM_cons, List.foldlM_cons, same]

mutual

/-- The tokens of data build it, whatever is open around it. -/
theorem build : (d : Data) → (stack : List Frame) →
    (tokensOf d).foldlM step ⟨.value, stack⟩ = some ⟨.after d, stack⟩
  | .null, _ => rfl
  | .bool _, _ => rfl
  | .int _, _ => rfl
  | .real _ _, _ => rfl
  | .text _, _ => rfl
  | .garbled, _ => rfl
  | .list [], _ => rfl
  | .list (d :: ds), stack => by
    have first := build d (.list [] :: stack)
    have items := buildItems ds d [] stack
    rw [← build_firstItem] at first
    rw [tokensOf, List.cons_append, List.cons_append, List.foldlM_cons, List.append_assoc]
    show ((tokensOf d ++ (itemTokens ds ++ [Token.closeList])).foldlM step
      ⟨.firstItem, .list [] :: stack⟩) = _
    rw [List.foldlM_append, first]
    exact items
  | .record [], _ => rfl
  | .record (f :: fs), stack => by
    have first := buildField f .firstName (.inl rfl) [] "" stack
    have fields := buildFields fs f [] stack
    rw [tokensOf, List.cons_append, List.cons_append, List.foldlM_cons, List.append_assoc]
    show ((fieldTokens f ++ (fieldsTokens fs ++ [Token.closeRecord])).foldlM step
      ⟨.firstName, .record [] true "" :: stack⟩) = _
    rw [List.foldlM_append, first]
    exact fields

/-- The rest of a list is built item by item until it is closed. -/
theorem buildItems : (ds : List Data) → (d : Data) → (done : List Data) → (stack : List Frame) →
    (itemTokens ds ++ [Token.closeList]).foldlM step ⟨.after d, .list done :: stack⟩ =
      some ⟨.after (.list (done.reverse ++ d :: ds)), stack⟩
  | [], d, done, stack => by
    simp [itemTokens, step]
  | next :: ds, d, done, stack => by
    have value := build next (.list (d :: done) :: stack)
    have items := buildItems ds next (d :: done) stack
    rw [itemTokens, List.cons_append, List.cons_append, List.foldlM_cons, List.append_assoc]
    show ((tokensOf next ++ (itemTokens ds ++ [Token.closeList])).foldlM step
      ⟨.value, .list (d :: done) :: stack⟩) = _
    rw [List.foldlM_append, value]
    show (itemTokens ds ++ [Token.closeList]).foldlM step
      ⟨.after next, .list (d :: done) :: stack⟩ = _
    rw [items, List.reverse_cons, List.append_assoc]
    rfl

theorem buildField : (f : String × Data) → (expect : Expect) →
    expect = .firstName ∨ expect = .name → (done : List (String × Data)) → (key : String) →
    (stack : List Frame) →
    (fieldTokens f).foldlM step ⟨expect, .record done true key :: stack⟩ =
      some ⟨.after f.2, .record done true f.1 :: stack⟩
  | (name, d), expect, named, done, key, stack => by
    have value := build d (.record done true name :: stack)
    rw [fieldTokens, List.foldlM_cons]
    rcases named with rfl | rfl
    · exact value
    · exact value

theorem buildFields : (fs : List (String × Data)) → (f : String × Data) →
    (done : List (String × Data)) → (stack : List Frame) →
    (fieldsTokens fs ++ [Token.closeRecord]).foldlM step
        ⟨.after f.2, .record done true f.1 :: stack⟩ =
      some ⟨.after (.record (done.reverse ++ f :: fs)), stack⟩
  | [], f, done, stack => by
    simp [fieldsTokens, step, Builder.closeRecord]
  | next :: fs, f, done, stack => by
    have field := buildField next .name (.inr rfl) (f :: done) f.1 stack
    have fields := buildFields fs next (f :: done) stack
    rw [fieldsTokens, List.cons_append, List.cons_append, List.foldlM_cons, List.append_assoc]
    show ((fieldTokens next ++ (fieldsTokens fs ++ [Token.closeRecord])).foldlM step
      ⟨.name, .record (f :: done) true f.1 :: stack⟩) = _
    rw [List.foldlM_append, field]
    show (fieldsTokens fs ++ [Token.closeRecord]).foldlM step
      ⟨.after next.2, .record (f :: done) true next.1 :: stack⟩ = _
    rw [fields, List.reverse_cons, List.append_assoc]
    rfl

end

end Building

/-- Every text that denotes data is read as that data. -/
theorem read_of_denotes {text : String} {d : Data} (denotes : Denotes text d) :
    read text = some d := by
  rw [read, tokens_of_spells denotes]
  show (tokensOf d).foldlM Builder.step Builder.start >>= Builder.finish = _
  rw [Builder.start, build d]
  rfl

/-- Plain data is read back from its text. -/
theorem read_write {d : Data} (plain : d.Plain) (style : Style) :
    read (String.ofList (write style 0 d)) = some d :=
  read_of_denotes (denotes_write style plain)

end Json

end LineagePorts
