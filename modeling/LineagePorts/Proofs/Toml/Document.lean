import LineagePorts.Proofs.Toml.Value

/-!
# Reading written TOML documents back

A written document is read as the statements that its lines and headers make, and these build its
tables: a line adds a value to the table that is open, a header opens a new one at the end of the
table that its path leads to.
-/

namespace LineagePorts.Toml

section Lines

def lineStatement (line : String × Inline) : Statement := .value [] line.1 line.2.toData

def Header.path : Header → List String
  | .table path => path
  | .item path => path

def Header.statement : Header → Statement
  | .table path => .table path.dropLast (path.getLastD "")
  | .item path => .item path.dropLast (path.getLastD "")

def Section.statements (s : Section) : List Statement :=
  s.header.statement :: s.lines.map lineStatement

def Layout.statements (l : Layout) : List Statement :=
  l.lines.map lineStatement ++ l.sections.flatMap Section.statements

/-- A header names its table by a path that is not too long. -/
structure Section.Fits (s : Section) : Prop where
  named : s.header.path ≠ []
  short : s.header.path.length ≤ maxDepth
  lines : ∀ line ∈ s.lines, line.2.Fits

theorem lineEnd?_lineBreak (rest : List Char) : lineEnd? ('\n' :: rest) = some rest := by
  simp [lineEnd?, skipBlanks_cons (c := '\n') rfl, skipComment, lineBreak?]

/-- A line that starts with something is not at its end yet. -/
theorem lineEnd?_cons {c : Char} (notBlank : isBlank c = false) (noComment : c ≠ '#')
    (noLine : c ≠ '\n') (noCarriage : c ≠ '\r') (cs : List Char) : lineEnd? (c :: cs) = none := by
  have comment : skipComment (c :: cs) = c :: cs := by
    rw [skipComment]
    simp [noComment]
  rw [lineEnd?, skipBlanks_cons notBlank, comment]
  show lineBreak? (c :: cs) = none
  rw [lineBreak?] <;> simp [noLine, noCarriage]

theorem StartsKey.lineEnd? {c : Char} (starts : StartsKey c) (cs : List Char) :
    Toml.lineEnd? (c :: cs) = none :=
  lineEnd?_cons starts.not_isBlank (starts.ne (by decide)) (starts.ne (by decide))
    (starts.ne (by decide)) cs

theorem Inline.write_starts (v : Inline) : ∃ c cs, v.write = c :: cs ∧ isBlank c = false := by
  cases v with
  | text s =>
    obtain ⟨c, cs, split, marks⟩ := writeText_starts s
    exact ⟨c, cs, split, by rcases marks with rfl | rfl <;> rfl⟩
  | integer n =>
    obtain ⟨c, cs, split, starts⟩ := signed_starts n
    refine ⟨c, cs, split, ?_⟩
    rcases starts with digit | rfl
    · have space : c ≠ ' ' := Text.ne_of_isDigit digit rfl
      have tab : c ≠ '\t' := Text.ne_of_isDigit digit rfl
      simp [isBlank, space, tab]
    · rfl
  | texts items => exact ⟨'[', _, rfl, rfl⟩

theorem statement?_writeLine {line : String × Inline} (fits : line.2.Fits) (rest : List Char) :
    statement? (writeLine line ++ rest) = some (lineStatement line, '\n' :: rest) := by
  obtain ⟨key, v⟩ := line
  obtain ⟨c, cs, split, starts⟩ := writeKey_starts key
  obtain ⟨d, ds, value, notBlank⟩ := v.write_starts
  let tail := ' ' :: '=' :: ' ' :: (v.write ++ '\n' :: rest)
  have whole : writeLine (key, v) ++ rest = writeKey key ++ tail := by
    simp [writeLine, tail]
  have read : key? (writeKey key ++ tail) = some (([], key), skipBlanks tail) := by
    refine @key?_writePath [key] tail (by simp) (by simp [maxDepth]) ?_ ?_
    · rintro c ⟨⟩
      rfl
    · intro more same
      cases same
  have blanks : skipBlanks (' ' :: (v.write ++ '\n' :: rest)) = v.write ++ '\n' :: rest := by
    rw [value]
    exact skipBlanks_cons notBlank _
  have equals : mark? '=' (skipBlanks tail) = some (' ' :: (v.write ++ '\n' :: rest)) := rfl
  have inner : keyValue? (value? maxDepth) (writeKey key ++ tail) =
      some (([], key, v.toData), '\n' :: rest) := by
    simp [keyValue?, read, equals, blanks, value?_write fits]
  have noHeader : c ≠ '[' := starts.ne (by decide)
  rw [split, List.cons_append] at whole inner
  rw [whole, statement?]
  · rw [inner]
    rfl
  all_goals simp [noHeader]

theorem writePath_starts {path : List String} (named : path ≠ []) :
    ∃ c cs, writePath path = c :: cs ∧ StartsKey c := by
  match path, named with
  | [key], _ => exact writeKey_starts key
  | key :: next :: path, _ =>
    obtain ⟨c, cs, split, starts⟩ := writeKey_starts key
    refine ⟨c, cs ++ '.' :: writePath (next :: path), ?_, starts⟩
    rw [writePath, split]
    · rfl
    · simp

theorem statement?_header {h : Header} (named : h.path ≠ []) (short : h.path.length ≤ maxDepth)
    (rest : List Char) : statement? (h.write ++ rest) = some (h.statement, '\n' :: rest) := by
  have read {path : List String} (named : path ≠ []) (short : path.length ≤ maxDepth)
      (tail : List Char) : key? (writePath path ++ ']' :: tail) =
        some ((path.dropLast, path.getLastD ""), ']' :: tail) := by
    refine key?_writePath named short ?_ ?_
    · rintro c ⟨⟩
      rfl
    · intro more same
      cases same
  cases h with
  | table path =>
    have named : path ≠ [] := named
    have inner := read named short ('\n' :: rest)
    have whole : (Header.table path).write ++ rest =
        '[' :: (writePath path ++ ']' :: '\n' :: rest) := by
      simp [Header.write]
    obtain ⟨c, cs, split, starts⟩ := writePath_starts named
    have noItem : c ≠ '[' := starts.ne (by decide)
    rw [split, List.cons_append] at whole inner
    rw [whole, statement?]
    · simp [inner, mark?, Header.statement]
    · simp [noItem]
  | item path =>
    have named : path ≠ [] := named
    have inner := read named short (']' :: '\n' :: rest)
    have whole : (Header.item path).write ++ rest =
        '[' :: '[' :: (writePath path ++ ']' :: ']' :: '\n' :: rest) := by
      simp [Header.write]
    rw [whole, statement?]
    simp [inner, mark?, Header.statement]

end Lines

section Reading

/-- A part of a document that is read as these statements, whatever comes after it. -/
def Says (cs : List Char) (ss : List Statement) : Prop :=
  ∃ lines ≤ cs.length, ∀ (fuel : Nat) (d : Document) (rest : List Char),
    readLines (lines + fuel) d (cs ++ rest) =
      (ss.foldlM Document.add d).bind (readLines fuel · rest)

theorem says_nil : Says [] [] := by
  refine ⟨0, Nat.le_refl _, fun fuel d rest => ?_⟩
  rw [Nat.zero_add]
  rfl

theorem Says.append {cs ds : List Char} {ss ts : List Statement} (first : Says cs ss)
    (second : Says ds ts) : Says (cs ++ ds) (ss ++ ts) := by
  obtain ⟨m, mBound, readFirst⟩ := first
  obtain ⟨n, nBound, readSecond⟩ := second
  refine ⟨m + n, ?_, fun fuel d rest => ?_⟩
  · rw [List.length_append]
    omega
  · rw [Nat.add_assoc, List.append_assoc, readFirst, List.foldlM_append]
    cases ss.foldlM Document.add d with
    | none => rfl
    | some e => exact readSecond fuel e rest

theorem Says.flatMap {α : Type} {write : α → List Char} {say : α → List Statement} {items : List α}
    (each : ∀ a ∈ items, Says (write a) (say a)) : Says (items.flatMap write) (items.flatMap say) := by
  induction items with
  | nil => exact says_nil
  | cons a items ih =>
    obtain ⟨first, later⟩ := List.forall_mem_cons.mp each
    rw [List.flatMap_cons, List.flatMap_cons]
    exact first.append (ih later)

theorem says_blank : Says ['\n'] [] := by
  refine ⟨1, Nat.le_refl _, fun fuel d rest => ?_⟩
  rw [Nat.add_comm, List.singleton_append, readLines, lineEnd?_lineBreak]
  · rfl
  · simp

theorem says_of_statement? {c : Char} {cs : List Char} {s : Statement}
    (read : ∀ rest, statement? (c :: cs ++ rest) = some (s, '\n' :: rest))
    (notBlank : isBlank c = false) (goesOn : ∀ cs, lineEnd? (c :: cs) = none) :
    Says (c :: cs) [s] := by
  refine ⟨1, Nat.succ_le_succ (Nat.zero_le _), fun fuel d rest => ?_⟩
  have whole := read rest
  rw [List.cons_append] at whole ⊢
  rw [Nat.add_comm, readLines, goesOn, skipBlanks_cons notBlank, whole]
  · simp [lineEnd?_lineBreak]
  · simp

theorem says_line {line : String × Inline} (fits : line.2.Fits) :
    Says (writeLine line) [lineStatement line] := by
  obtain ⟨c, cs, split, starts⟩ := writeKey_starts line.1
  have whole : writeLine line = c :: (cs ++ ' ' :: '=' :: ' ' :: line.2.write ++ ['\n']) := by
    simp [writeLine, split]
  rw [whole]
  refine says_of_statement? (fun rest => ?_) starts.not_isBlank starts.lineEnd?
  rw [← whole]
  exact statement?_writeLine fits rest

theorem says_header {h : Header} (named : h.path ≠ []) (short : h.path.length ≤ maxDepth) :
    Says h.write [h.statement] := by
  have starts : ∃ cs, h.write = '[' :: cs := by
    cases h <;> exact ⟨_, rfl⟩
  obtain ⟨cs, split⟩ := starts
  rw [split]
  refine says_of_statement? (fun rest => ?_) rfl
    (lineEnd?_cons rfl (by decide) (by decide) (by decide))
  rw [← split]
  exact statement?_header named short rest

theorem says_lines {lines : List (String × Inline)} (fits : ∀ line ∈ lines, line.2.Fits) :
    Says (lines.flatMap writeLine) (lines.map lineStatement) := by
  rw [← List.flatMap_singleton' (lines.map lineStatement), List.flatMap_map]
  exact Says.flatMap fun line mem => says_line (fits line mem)

theorem says_section {s : Section} (fits : s.Fits) : Says s.write s.statements :=
  says_blank.append ((says_header fits.named fits.short).append (says_lines fits.lines))

theorem says_layout {l : Layout} (lines : ∀ line ∈ l.lines, line.2.Fits)
    (sections : ∀ s ∈ l.sections, s.Fits) : Says l.write l.statements :=
  (says_lines lines).append (Says.flatMap fun s mem => says_section (sections s mem))

theorem Says.readLines {cs : List Char} {ss : List Statement} (told : Says cs ss) {d : Document}
    (built : ss.foldlM Document.add .empty = some d) :
    Toml.readLines cs.length .empty cs = some d := by
  obtain ⟨lines, bound, read⟩ := told
  have whole := read (cs.length - lines) .empty []
  rw [Nat.add_sub_cancel' bound, List.append_nil, built, Option.bind_some] at whole
  rw [whole, Toml.readLines]

end Reading

end LineagePorts.Toml
