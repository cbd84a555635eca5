import LineagePorts.Toml.Writer
import Mathlib.Tactic.SplitIfs

/-!
# Reading written texts of TOML back

Each of the four ways to write a text is undone by reading it, provided that no quote and no
apostrophe follows. Between three marks up to two marks may stand for themselves; those at the end of
the text are told from the closing ones by their number.
-/

namespace LineagePorts.Toml

/-- Neither a quote nor an apostrophe comes next. -/
def EndsText (cs : List Char) : Prop := ∀ c ∈ cs.head?, c ≠ '"' ∧ c ≠ '\''

theorem codePoint?_upperHexDigit {n : Nat} (small : n < 0x80) :
    codePoint? ['0', '0', upperHexDigit (n / 16), upperHexDigit (n % 16)] =
      some (Char.ofNat n) := by
  have all : ∀ n < 0x80, codePoint? ['0', '0', upperHexDigit (n / 16), upperHexDigit (n % 16)] =
      some (Char.ofNat n) := by decide +kernel
  exact all n small

/-- What must be written by its code point has a small one. -/
theorem small_of_not_isPlain {c : Char} (control : ¬ isPlain c = true) : c.toNat < 0x80 := by
  simp [isPlain] at control
  omega

section Basic

theorem scanBasic_plain {c : Char} (notQuote : c ≠ '"') (notSlash : c ≠ '\\')
    (plain : isPlain c = true) (done rest : List Char) :
    scanBasic done (c :: rest) = scanBasic (c :: done) rest := by
  rw [scanBasic, if_pos plain]
  · exact notQuote
  all_goals simp [notSlash]

theorem scanBasic_escapeChar {c : Char} (notQuote : c ≠ '"') (done rest : List Char) :
    scanBasic done (escapeChar false c ++ rest) = scanBasic (c :: done) rest := by
  rw [escapeChar, if_neg Bool.false_ne_true]
  split_ifs with back tab line form carriage slash plain
  · subst back
    rfl
  · subst tab
    rfl
  · subst line
    rfl
  · subst form
    rfl
  · subst carriage
    rfl
  · subst slash
    rfl
  · exact scanBasic_plain notQuote slash plain done rest
  · have read := codePoint?_upperHexDigit (small_of_not_isPlain plain)
    simp [scanBasic, read]

theorem scanBasic_escapeText (cs : List Char) (quotes : Nat) (done rest : List Char) :
    scanBasic done (escapeText false quotes cs ++ '"' :: rest) =
      some (String.ofList (done.reverse ++ cs), rest) := by
  induction cs generalizing quotes done with
  | nil => simp [escapeText, scanBasic, finish]
  | cons c cs ih =>
    rw [escapeText]
    by_cases quote : c = '"'
    · subst quote
      have step : scanBasic done ('\\' :: '"' :: (escapeText false 0 cs ++ '"' :: rest)) =
          scanBasic ('"' :: done) (escapeText false 0 cs ++ '"' :: rest) := rfl
      simp [step, ih]
    · simp [quote, List.append_assoc, scanBasic_escapeChar quote, ih]

end Basic

section Literal

theorem scanLiteral_plain {cs : List Char} (plain : ∀ c ∈ cs, isPlain c = true)
    (noMark : '\'' ∉ cs) (done rest : List Char) :
    scanLiteral done (cs ++ '\'' :: rest) = some (String.ofList (done.reverse ++ cs), rest) := by
  induction cs generalizing done with
  | nil => simp [scanLiteral, finish]
  | cons c cs ih =>
    obtain ⟨first, later⟩ := List.forall_mem_cons.mp plain
    obtain ⟨other, others⟩ := not_or.mp (mt List.mem_cons.mpr noMark)
    have step : scanLiteral done (c :: (cs ++ '\'' :: rest)) =
        scanLiteral (c :: done) (cs ++ '\'' :: rest) := by
      simp [scanLiteral, Ne.symm other, first]
    rw [List.cons_append, step, ih later others, List.reverse_cons, List.append_assoc]
    rfl

end Literal

section LongBasic

theorem scanLongBasic_plain {c : Char} (notQuote : c ≠ '"') (notSlash : c ≠ '\\')
    (notLine : c ≠ '\n') (notCarriage : c ≠ '\r') (plain : isPlain c = true)
    (done rest : List Char) :
    scanLongBasic done false (c :: rest) = scanLongBasic (c :: done) false rest := by
  rw [scanLongBasic, Bool.false_and, if_neg Bool.false_ne_true, if_pos plain]
  all_goals simp [notQuote, notSlash, notLine, notCarriage]

theorem scanLongBasic_escapeChar {c : Char} (notQuote : c ≠ '"') (done rest : List Char) :
    scanLongBasic done false (escapeChar true c ++ rest) =
      scanLongBasic (c :: done) false rest := by
  rw [escapeChar, if_pos (Eq.refl true)]
  split_ifs with back tab line form carriage slash plain
  · subst back
    rfl
  · subst tab
    rfl
  · subst line
    rfl
  · subst form
    rfl
  · subst carriage
    rfl
  · subst slash
    rfl
  · exact scanLongBasic_plain notQuote slash line carriage plain done rest
  · have read := codePoint?_upperHexDigit (small_of_not_isPlain plain)
    simp [scanLongBasic, read]

/-- Up to two quotes in front of another character stand for themselves. -/
theorem scanLongBasic_pending {quotes : Nat} (few : quotes ≤ 2) {c : Char} (notQuote : c ≠ '"')
    (done rest : List Char) :
    scanLongBasic done false (List.replicate quotes '"' ++ c :: rest) =
      scanLongBasic (List.replicate quotes '"' ++ done) false (c :: rest) := by
  have one (done : List Char) : scanLongBasic done false ('"' :: c :: rest) =
      scanLongBasic ('"' :: done) false (c :: rest) := by
    rw [scanLongBasic] <;> simp [notQuote, isPlain]
  have two (done : List Char) : scanLongBasic done false ('"' :: '"' :: c :: rest) =
      scanLongBasic ('"' :: done) false ('"' :: c :: rest) := by
    rw [scanLongBasic] <;> simp [notQuote, isPlain]
  match quotes, few with
  | 0, _ => rfl
  | 1, _ => exact one done
  | 2, _ => exact (two done).trans (one _)

theorem head?_escapeChar {long : Bool} {c : Char} (notQuote : c ≠ '"') :
    ∃ d ds, escapeChar long c = d :: ds ∧ d ≠ '"' := by
  rw [escapeChar]
  split_ifs <;> simp [notQuote]

/-- The quotes already read, of which there are `quotes`, are still pending: they belong to the
closing ones unless another character follows. -/
theorem scanLongBasic_escapeText {cs : List Char} {quotes : Nat} (few : quotes ≤ 2)
    (done : List Char) {rest : List Char} (ends : EndsText rest) :
    scanLongBasic done false (List.replicate quotes '"' ++
        (escapeText true quotes cs ++ '"' :: '"' :: '"' :: rest)) =
      some (String.ofList (done.reverse ++ (List.replicate quotes '"' ++ cs)), rest) := by
  induction cs generalizing quotes done with
  | nil =>
    have clear : ∀ tail, rest ≠ '"' :: tail := by
      rintro tail rfl
      exact (ends _ rfl).1 rfl
    match quotes, few with
    | 0, _ => rw [List.replicate, escapeText, List.nil_append, List.nil_append, scanLongBasic] <;>
        simp [finish, clear]
    | 1, _ => simp [escapeText, scanLongBasic, finish]
    | 2, _ => simp [escapeText, scanLongBasic, finish]
  | cons c cs ih =>
    rw [escapeText]
    by_cases quote : c = '"'
    · subst quote
      by_cases full : 2 ≤ quotes
      · have step (done rest : List Char) : scanLongBasic done false ('\\' :: '"' :: rest) =
            scanLongBasic ('"' :: done) false rest := rfl
        have slash : '\\' ≠ '"' := by decide
        have next := ih (Nat.zero_le 2) ('"' :: (List.replicate quotes '"' ++ done))
        simpa [full, scanLongBasic_pending few slash, step] using next
      · have next := ih (Nat.lt_of_not_le full) done
        rw [List.replicate_succ'] at next
        simpa [full] using next
    · obtain ⟨d, ds, split, other⟩ := @head?_escapeChar true c quote
      have char := scanLongBasic_escapeChar quote (List.replicate quotes '"' ++ done)
        (escapeText true 0 cs ++ '"' :: '"' :: '"' :: rest)
      rw [split, List.cons_append] at char
      have next := ih (Nat.zero_le 2) (c :: (List.replicate quotes '"' ++ done))
      simpa [quote, split, scanLongBasic_pending few other, char] using next

end LongBasic

section LongLiteral

theorem le_longestRun (c : Char) (run longest : Nat) (cs : List Char) :
    longest ≤ longestRun c run longest cs := by
  induction cs generalizing run longest with
  | nil => exact Nat.le_refl _
  | cons d ds ih =>
    rw [longestRun]
    split
    · exact Nat.le_trans (Nat.le_max_left _ _) (ih _ _)
    · exact ih _ _

theorem longestRun_pos {c : Char} {cs : List Char} (mem : c ∈ cs) (run longest : Nat) :
    0 < longestRun c run longest cs := by
  induction cs generalizing run longest with
  | nil => cases mem
  | cons d ds ih =>
    rw [longestRun]
    split
    · have bound := le_longestRun c (run + 1) (max longest (run + 1)) ds
      omega
    · rename_i other
      rcases List.mem_cons.mp mem with same | later
      · exact absurd same.symm other
      · exact ih later _ _

theorem scanLongLiteral_plain {c : Char} (notMark : c ≠ '\'') (fits : needsCode c = false)
    (done rest : List Char) :
    scanLongLiteral done (c :: rest) = scanLongLiteral (c :: done) rest := by
  by_cases line : c = '\n'
  · subst line
    rfl
  · have plain : isPlain c = true := by simpa [needsCode, line] using fits
    have notCarriage : c ≠ '\r' := by
      rintro rfl
      exact absurd plain (by decide)
    rw [scanLongLiteral, if_pos plain]
    all_goals simp [notMark, line, notCarriage]

theorem scanLongLiteral_pending {marks : Nat} (few : marks ≤ 2) {c : Char} (notMark : c ≠ '\'')
    (done rest : List Char) :
    scanLongLiteral done (List.replicate marks '\'' ++ c :: rest) =
      scanLongLiteral (List.replicate marks '\'' ++ done) (c :: rest) := by
  have one (done : List Char) : scanLongLiteral done ('\'' :: c :: rest) =
      scanLongLiteral ('\'' :: done) (c :: rest) := by
    rw [scanLongLiteral] <;> simp [notMark, isPlain]
  have two (done : List Char) : scanLongLiteral done ('\'' :: '\'' :: c :: rest) =
      scanLongLiteral ('\'' :: done) ('\'' :: c :: rest) := by
    rw [scanLongLiteral] <;> simp [notMark, isPlain]
  match marks, few with
  | 0, _ => rfl
  | 1, _ => exact one done
  | 2, _ => exact (two done).trans (one _)

/-- As between quotes, the apostrophes already read are still pending. -/
theorem scanLongLiteral_append {cs : List Char} {marks longest : Nat} (few : marks ≤ 2)
    (fits : ∀ c ∈ cs, needsCode c = false) (runs : longestRun '\'' marks longest cs ≤ 2)
    (done : List Char) {rest : List Char} (ends : EndsText rest) :
    scanLongLiteral done (List.replicate marks '\'' ++ (cs ++ '\'' :: '\'' :: '\'' :: rest)) =
      some (String.ofList (done.reverse ++ (List.replicate marks '\'' ++ cs)), rest) := by
  induction cs generalizing marks longest done with
  | nil =>
    have clear : ∀ tail, rest ≠ '\'' :: tail := by
      rintro tail rfl
      exact (ends _ rfl).2 rfl
    match marks, few with
    | 0, _ => rw [List.replicate, List.nil_append, List.nil_append, scanLongLiteral] <;>
        simp [finish, clear]
    | 1, _ => simp [scanLongLiteral, finish]
    | 2, _ => simp [scanLongLiteral, finish]
  | cons c cs ih =>
    obtain ⟨first, later⟩ := List.forall_mem_cons.mp fits
    rw [longestRun] at runs
    by_cases mark : c = '\''
    · subst mark
      rw [if_pos rfl] at runs
      have bound := le_longestRun '\'' (marks + 1) (max longest (marks + 1)) cs
      have next := @ih (marks + 1) _ (by omega) later runs done
      rw [List.replicate_succ'] at next
      simpa using next
    · rw [if_neg mark] at runs
      have next := ih (Nat.zero_le 2) later runs (c :: (List.replicate marks '\'' ++ done))
      simpa [scanLongLiteral_pending few mark, scanLongLiteral_plain mark first] using next

end LongLiteral

section Written

theorem textStyle_literal {cs : List Char} (style : textStyle cs = .literal) :
    (∀ c ∈ cs, needsCode c = false) ∧ '\'' ∉ cs ∧ '\n' ∉ cs := by
  simp only [textStyle] at style
  split_ifs at style with basic literal
  simp only [Bool.and_eq_true, Bool.not_eq_true', decide_eq_true_eq, List.any_eq_false] at literal
  obtain ⟨⟨codes, apostrophes⟩, lines⟩ := literal
  refine ⟨fun c mem => by simpa using codes c mem, fun mem => ?_, fun mem => ?_⟩
  · exact absurd apostrophes (Nat.ne_of_gt (longestRun_pos mem 0 0))
  · simp [mem] at lines

theorem textStyle_longLiteral {cs : List Char} (style : textStyle cs = .longLiteral) :
    (∀ c ∈ cs, needsCode c = false) ∧ longestRun '\'' 0 0 cs ≤ 2 := by
  simp only [textStyle] at style
  split_ifs at style with basic literal longBasic longLiteral
  simp only [Bool.and_eq_true, Bool.not_eq_true', decide_eq_true_eq, List.any_eq_false] at longLiteral
  exact ⟨fun c mem => by simpa using longLiteral.1 c mem, longLiteral.2⟩

/-- A carriage return is never written as such, and a line break only as itself. -/
theorem escapeChar_starts {c d : Char} {ds : List Char} (notLine : c ≠ '\n')
    (split : escapeChar true c = d :: ds) : d ≠ '\n' ∧ d ≠ '\r' := by
  rw [escapeChar] at split
  split_ifs at split with back tab form carriage slash plain
  all_goals
    obtain ⟨rfl, _⟩ := List.cons.inj split
    simp [*]

theorem text?_quote {cs : List Char} (short : ∀ tail, cs ≠ '"' :: '"' :: tail) :
    text? ('"' :: cs) = scanBasic [] cs := by
  rw [text?]
  exact short

theorem text?_apostrophe {cs : List Char} (short : ∀ tail, cs ≠ '\'' :: '\'' :: tail) :
    text? ('\'' :: cs) = scanLiteral [] cs := by
  rw [text?]
  exact short

/-- A line break after the opening marks is dropped, and is there if the text has another one. -/
theorem skipLineBreak_opening {cs written : List Char}
    (starts : '\n' ∉ cs → ∀ c ∈ written.head?, c ≠ '\n' ∧ c ≠ '\r') :
    skipLineBreak ((if cs.contains '\n' then ['\n'] else []) ++ written) = written := by
  by_cases line : '\n' ∈ cs
  · simp [line, skipLineBreak, lineBreak?]
  · have none : lineBreak? written = none := by
      cases written with
      | nil => rfl
      | cons c written =>
        obtain ⟨notLine, notCarriage⟩ := starts line c rfl
        rw [lineBreak?] <;> simp [notLine, notCarriage]
    simp [line, skipLineBreak, none]

variable {rest : List Char} (ends : EndsText rest)

include ends

theorem text?_basic (cs : List Char) :
    text? ('"' :: (escapeText false 0 cs ++ '"' :: rest)) = some (String.ofList cs, rest) := by
  rw [text?_quote, scanBasic_escapeText]
  · rfl
  · intro tail same
    cases cs with
    | nil =>
      rw [escapeText, List.nil_append, List.cons.injEq] at same
      rw [same.2] at ends
      exact (ends _ rfl).1 rfl
    | cons c cs =>
      by_cases quote : c = '"'
      · simp [escapeText, quote] at same
      · obtain ⟨d, ds, split, other⟩ := @head?_escapeChar false c quote
        simp [escapeText, quote, split, other] at same

theorem text?_literal {cs : List Char} (plain : ∀ c ∈ cs, isPlain c = true) (noMark : '\'' ∉ cs) :
    text? ('\'' :: (cs ++ '\'' :: rest)) = some (String.ofList cs, rest) := by
  rw [text?_apostrophe, scanLiteral_plain plain noMark]
  · rfl
  · intro tail same
    cases cs with
    | nil =>
      rw [List.nil_append, List.cons.injEq] at same
      rw [same.2] at ends
      exact (ends _ rfl).2 rfl
    | cons c cs =>
      rw [List.cons_append, List.cons.injEq] at same
      exact noMark (same.1 ▸ List.mem_cons_self)

theorem text?_longBasic (cs : List Char) :
    text? ('"' :: '"' :: '"' :: ((if cs.contains '\n' then ['\n'] else []) ++
        (escapeText true 0 cs ++ '"' :: '"' :: '"' :: rest))) =
      some (String.ofList cs, rest) := by
  have read := @scanLongBasic_escapeText cs 0 (Nat.zero_le 2) [] rest ends
  rw [text?, skipLineBreak_opening]
  · exact read
  · intro noLine c first
    cases cs with
    | nil =>
      obtain rfl : '"' = c := by simpa [escapeText] using first
      decide
    | cons d cs =>
      by_cases quote : d = '"'
      · obtain rfl : '"' = c := by simpa [escapeText, quote] using first
        decide
      · have notLine : d ≠ '\n' := fun same => noLine (same ▸ List.mem_cons_self)
        obtain ⟨e, es, split, other⟩ := @head?_escapeChar true d quote
        obtain rfl : e = c := by simpa [escapeText, quote, split] using first
        exact escapeChar_starts notLine split

theorem text?_longLiteral {cs : List Char} (fits : ∀ c ∈ cs, needsCode c = false)
    (runs : longestRun '\'' 0 0 cs ≤ 2) :
    text? ('\'' :: '\'' :: '\'' :: ((if cs.contains '\n' then ['\n'] else []) ++
        (cs ++ '\'' :: '\'' :: '\'' :: rest))) =
      some (String.ofList cs, rest) := by
  have read := scanLongLiteral_append (Nat.zero_le 2) fits runs [] ends
  rw [text?, skipLineBreak_opening]
  · exact read
  · intro noLine c first
    cases cs with
    | nil =>
      obtain rfl : '\'' = c := by simpa using first
      decide
    | cons d cs =>
      obtain rfl : d = c := by simpa using first
      constructor
      · rintro rfl
        exact noLine List.mem_cons_self
      · rintro rfl
        exact absurd (fits _ List.mem_cons_self) (by decide)

/-- A text is read back in whatever way it was written. -/
theorem text?_writeText (s : String) : text? (writeText s ++ rest) = some (s, rest) := by
  rw [writeText]
  cases style : textStyle s.toList with
  | basic =>
    have read := text?_basic ends s.toList
    simpa using read
  | literal =>
    obtain ⟨fits, noMark, noLine⟩ := textStyle_literal style
    have plain : ∀ c ∈ s.toList, isPlain c = true := by
      intro c mem
      have notLine : c ≠ '\n' := fun same => noLine (same ▸ mem)
      simpa [needsCode, notLine] using fits c mem
    have read := text?_literal ends plain noMark
    simpa using read
  | longBasic =>
    have read := text?_longBasic ends s.toList
    simpa using read
  | longLiteral =>
    obtain ⟨fits, runs⟩ := textStyle_longLiteral style
    have read := text?_longLiteral ends fits runs
    simpa using read

end Written

end LineagePorts.Toml
