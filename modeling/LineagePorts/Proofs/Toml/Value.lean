import LineagePorts.Proofs.Text.Decimal
import LineagePorts.Proofs.Toml.Text

/-!
# Reading written keys and values of TOML back

A key and a dotted path of keys are read back before whatever cannot go on with them, and so are the
values that documents are written with: texts, integers at the end of a line, and lists of texts.
-/

namespace LineagePorts.Toml

open Text (isDigit decimal)

theorem skipBlanks_cons {c : Char} (notBlank : isBlank c = false) (cs : List Char) :
    skipBlanks (c :: cs) = c :: cs := by
  simp [skipBlanks, notBlank]

section Key

/-- What a key starts with. -/
def StartsKey (c : Char) : Prop := isKeyChar c = true ∨ c = '"' ∨ c = '\''

/-- Nothing else in a document starts like a key. -/
theorem StartsKey.ne {c d : Char} (starts : StartsKey c)
    (other : isKeyChar d = false ∧ d ≠ '"' ∧ d ≠ '\'') : c ≠ d := by
  rintro rfl
  rcases starts with bare | quote | mark
  · rw [other.1] at bare
    cases bare
  · exact other.2.1 quote
  · exact other.2.2 mark

theorem StartsKey.not_isBlank {c : Char} (starts : StartsKey c) : isBlank c = false := by
  have space : c ≠ ' ' := starts.ne (by decide)
  have tab : c ≠ '\t' := starts.ne (by decide)
  simp [isBlank, space, tab]

theorem writeKey_starts (key : String) : ∃ c cs, writeKey key = c :: cs ∧ StartsKey c := by
  rw [writeKey]
  split_ifs with bare basic literal
  · obtain ⟨nonempty, chars⟩ := Bool.and_eq_true_iff.mp bare
    cases cs : key.toList with
    | nil => simp [cs] at nonempty
    | cons c cs' => exact ⟨c, cs', rfl, .inl (List.all_eq_true.mp chars c (cs ▸ List.mem_cons_self))⟩
  · exact ⟨'"', _, rfl, .inr (.inl rfl)⟩
  · exact ⟨'\'', _, rfl, .inr (.inr rfl)⟩
  · exact ⟨'"', _, rfl, .inr (.inl rfl)⟩

theorem flatMap_escapeChar {cs : List Char} (noQuote : '"' ∉ cs) (quotes : Nat) :
    cs.flatMap (escapeChar false) = escapeText false quotes cs := by
  induction cs generalizing quotes with
  | nil => rfl
  | cons c cs ih =>
    obtain ⟨other, others⟩ := not_or.mp (mt List.mem_cons.mpr noQuote)
    rw [List.flatMap_cons, escapeText, if_neg (Ne.symm other), ih others 0]

theorem span_isKeyChar {cs rest : List Char} (chars : ∀ c ∈ cs, isKeyChar c = true)
    (ends : ∀ c ∈ rest.head?, isKeyChar c = false) :
    (cs ++ rest).span isKeyChar = (cs, rest) := by
  rw [List.span_eq_takeWhile_dropWhile, List.takeWhile_append_of_pos chars,
    List.dropWhile_append_of_pos chars]
  cases rest with
  | nil => simp
  | cons c rest => simp [ends c rfl]

theorem simpleKey?_writeKey (key : String) {rest : List Char}
    (ends : ∀ c ∈ rest.head?, isKeyChar c = false) :
    simpleKey? (writeKey key ++ rest) = some (key, rest) := by
  rw [writeKey]
  split_ifs with bare basic literal
  · obtain ⟨nonempty, chars⟩ := Bool.and_eq_true_iff.mp bare
    have cut := span_isKeyChar (List.all_eq_true.mp chars) ends
    cases cs : key.toList with
    | nil => simp [cs] at nonempty
    | cons c cs' =>
      have first : isKeyChar c = true := List.all_eq_true.mp chars c (cs ▸ List.mem_cons_self)
      have other {d : Char} (no : isKeyChar d = false) : c ≠ d := by
        rintro rfl
        rw [first] at no
        cases no
      rw [cs, List.cons_append] at cut
      rw [List.cons_append, simpleKey?]
      · rw [cut]
        show some (String.ofList (c :: cs'), rest) = some (key, rest)
        rw [← cs, String.ofList_toList]
      · intro _ same
        exact other rfl (List.cons.inj same).1
      · intro _ same
        exact other rfl (List.cons.inj same).1
  · simp only [Bool.and_eq_true, Bool.not_eq_true'] at basic
    have noQuote : '"' ∉ key.toList := by simpa using basic.2
    have read := scanBasic_escapeText key.toList 0 [] rest
    rw [← flatMap_escapeChar noQuote 0] at read
    simpa [simpleKey?] using read
  · simp only [Bool.and_eq_true, Bool.not_eq_true'] at literal
    have plain : ∀ c ∈ key.toList, isPlain c = true := by simpa using literal.1
    have noMark : '\'' ∉ key.toList := by simpa using literal.2
    have read := scanLiteral_plain plain noMark [] rest
    simpa [simpleKey?] using read
  · have read := scanBasic_escapeText key.toList 0 [] rest
    simpa [simpleKey?] using read

theorem keyParts?_writePath {keys : List String} {most : Nat} {rest : List Char}
    (some_key : keys ≠ []) (enough : keys.length ≤ most)
    (ends : ∀ c ∈ rest.head?, isKeyChar c = false) (noDot : ∀ tail, skipBlanks rest ≠ '.' :: tail) :
    keyParts? most (writePath keys ++ rest) = some (keys, skipBlanks rest) := by
  induction keys generalizing most with
  | nil => exact absurd rfl some_key
  | cons key keys ih =>
    obtain ⟨c, cs, split, starts⟩ := writeKey_starts key
    cases most with
    | zero => cases enough
    | succ most =>
      cases keys with
      | nil =>
        have first := simpleKey?_writeKey key ends
        rw [split, List.cons_append] at first
        rw [writePath, split, List.cons_append, keyParts?, skipBlanks_cons starts.not_isBlank, first]
        -- No dot comes next, by `noDot`.
        simp
      | cons next keys =>
        have dot : ∀ c ∈ ('.' :: (writePath (next :: keys) ++ rest)).head?, isKeyChar c = false := by
          rintro c ⟨⟩
          rfl
        have first := simpleKey?_writeKey key dot
        have later := @ih most (by simp) (by simpa using enough)
        rw [split, List.cons_append] at first
        rw [writePath, split, List.append_assoc, List.cons_append, List.cons_append, keyParts?,
          skipBlanks_cons starts.not_isBlank, first]
        · simp [skipBlanks_cons (c := '.') rfl, later]
        · simp

/-- The path to a table and its last key. -/
theorem key?_writePath {keys : List String} {rest : List Char} (some_key : keys ≠ [])
    (enough : keys.length ≤ maxDepth) (ends : ∀ c ∈ rest.head?, isKeyChar c = false)
    (noDot : ∀ tail, skipBlanks rest ≠ '.' :: tail) :
    key? (writePath keys ++ rest) = some ((keys.dropLast, keys.getLastD ""), skipBlanks rest) := by
  have last : keys.getLast? = some (keys.getLastD "") := by
    rw [List.getLastD_eq_getLast?]
    cases known : keys.getLast? with
    | none => exact absurd (List.getLast?_eq_none_iff.mp known) some_key
    | some key => rfl
  rw [key?, keyParts?_writePath some_key enough ends noDot]
  simp only [Option.bind_eq_bind, Option.bind_some, last]
  rfl

end Key

section Integer

variable {ds : List Char} (digits : ∀ c ∈ ds, isDigit c = true) (rest : List Char)

include digits

theorem twoDigits?_digits {n : Nat} {cs : List Char}
    (read : twoDigits? (ds ++ '\n' :: rest) = some (n, cs)) :
    ∃ es, (∀ c ∈ es, isDigit c = true) ∧ cs = es ++ '\n' :: rest := by
  match ds, digits with
  | [], _ => cases rest <;> cases read
  | [d], _ => simp [twoDigits?, show isDigit '\n' = false from rfl] at read
  | d :: e :: es, digits =>
    simp only [List.cons_append, twoDigits?, Option.ite_none_right_eq_some, Option.some.injEq,
      Prod.mk.injEq] at read
    exact ⟨es, fun c mem => digits c (List.mem_cons_of_mem _ (List.mem_cons_of_mem _ mem)),
      read.2.2.symm⟩

theorem starts_digits {c : Char} (other : isDigit c = false) (notLine : c ≠ '\n')
    (tail : List Char) : ds ++ '\n' :: rest ≠ c :: tail := by
  intro same
  cases ds with
  | nil => exact notLine (List.cons.inj same).1.symm
  | cons d ds => exact Text.ne_of_isDigit (digits d List.mem_cons_self) other (List.cons.inj same).1

theorem mark?_digits {c : Char} (other : isDigit c = false) (notLine : c ≠ '\n') :
    mark? c (ds ++ '\n' :: rest) = none := by
  cases ds with
  | nil => simp [mark?, Ne.symm notLine]
  | cons d ds => simp [mark?, Text.ne_of_isDigit (digits d List.mem_cons_self) other]

/-- Digits up to the end of a line are no date, for want of a hyphen. -/
theorem date?_digits : date? (ds ++ '\n' :: rest) = none := by
  rw [date?]
  cases first : twoDigits? (ds ++ '\n' :: rest) with
  | none => rfl
  | some century =>
    obtain ⟨n, cs⟩ := century
    obtain ⟨es, digits, rfl⟩ := twoDigits?_digits digits rest first
    cases second : twoDigits? (es ++ '\n' :: rest) with
    | none => simp [second]
    | some year =>
      obtain ⟨n, cs⟩ := year
      obtain ⟨es, digits, rfl⟩ := twoDigits?_digits digits rest second
      simp [second, mark?_digits digits rest (c := '-') rfl (by decide)]

theorem time?_digits : time? (ds ++ '\n' :: rest) = none := by
  rw [time?]
  cases first : twoDigits? (ds ++ '\n' :: rest) with
  | none => rfl
  | some hour =>
    obtain ⟨n, cs⟩ := hour
    obtain ⟨es, digits, rfl⟩ := twoDigits?_digits digits rest first
    simp [mark?_digits digits rest (c := ':') rfl (by decide)]

theorem scanDigitsFrom_digits (behindDigit : Bool) :
    scanDigitsFrom isDigit behindDigit (ds ++ '\n' :: rest) = (ds, '\n' :: rest) := by
  induction ds generalizing behindDigit with
  | nil => simp [scanDigitsFrom, show isDigit '\n' = false from rfl]
  | cons d ds ih =>
    obtain ⟨first, later⟩ := List.forall_mem_cons.mp digits
    simp [scanDigitsFrom, first, ih later]

omit digits

theorem scanWhole_decimal (n : Nat) :
    scanWhole (decimal n ++ '\n' :: rest) = some (decimal n, '\n' :: rest) := by
  have digits : ∀ c ∈ decimal n, isDigit c = true := fun c mem => Text.isDigit_of_mem_decimal mem
  by_cases zero : n = 0
  · subst zero
    have digit : decimal 0 = ['0'] := by
      rw [decimal]
      rfl
    rw [digit]
    rfl
  · have leading := Text.head?_decimal_ne_zero zero
    have cut := scanDigitsFrom_digits digits rest false
    obtain ⟨d, ds, split⟩ := List.exists_cons_of_ne_nil (Text.decimal_ne_nil n)
    rw [split] at leading cut ⊢
    rw [scanWhole, scanDigits, cut]
    · rfl
    · rintro cs same
      exact leading (congrArg some (List.cons.inj same).1)

/-- What is asked of an integer is the same with a minus and without a sign. -/
theorem scalar?_of_scanSign {cs rest : List Char} {negative : Bool} {n : Nat}
    (sign : scanSign cs = (negative, decimal n ++ '\n' :: rest))
    (noDate : dateTime? cs = none) (noTruth : truth? cs = none)
    (noBase : integer? cs = (scanWhole (decimal n ++ '\n' :: rest)).bind fun (digits, rest) =>
      integer (negateIf negative (Text.ofDecimal digits)) rest) :
    scalar? cs = integer (negateIf negative n) ('\n' :: rest) := by
  have whole := scanWhole_decimal rest n
  have noReal : real? cs = none := by
    simp [real?, sign, whole, scanExponent]
  have noSpecial : special? cs = none := by
    obtain ⟨d, ds, split⟩ := List.exists_cons_of_ne_nil (Text.decimal_ne_nil n)
    have digit : isDigit d = true :=
      Text.isDigit_of_mem_decimal (split ▸ List.mem_cons_self)
    have notI : d ≠ 'i' := Text.ne_of_isDigit digit rfl
    have notN : d ≠ 'n' := Text.ne_of_isDigit digit rfl
    simp [special?, sign, split, notI, notN]
  rw [scalar?, noDate, noReal, noSpecial, noTruth, noBase, whole]
  simp [Text.ofDecimal_decimal]

theorem scalar?_signed {n : Int} (small : -9223372036854775808 ≤ n ∧ n ≤ 9223372036854775807)
    (rest : List Char) : scalar? (Text.signed n ++ '\n' :: rest) = some (.int n, '\n' :: rest) := by
  cases n with
  | ofNat n =>
    have digits : ∀ c ∈ decimal n, isDigit c = true := fun c mem => Text.isDigit_of_mem_decimal mem
    have noDate : dateTime? (decimal n ++ '\n' :: rest) = none := by
      rw [dateTime?, date?_digits digits, time?_digits digits]
      rfl
    obtain ⟨d, ds, split⟩ := List.exists_cons_of_ne_nil (Text.decimal_ne_nil n)
    obtain ⟨digit, later⟩ := List.forall_mem_cons.mp (split ▸ digits)
    have other {c : Char} (no : isDigit c = false) : d ≠ c := Text.ne_of_isDigit digit no
    have sign : scanSign (decimal n ++ '\n' :: rest) = (false, decimal n ++ '\n' :: rest) := by
      rw [split, List.cons_append, scanSign] <;> simp [other (c := '-') rfl, other (c := '+') rfl]
    have noTruth : truth? (decimal n ++ '\n' :: rest) = none := by
      rw [split, List.cons_append, truth?] <;> simp [other (c := 't') rfl, other (c := 'f') rfl]
    have noBase := fun (c : Char) (no : isDigit c = false) (notLine : c ≠ '\n') =>
      starts_digits later rest no notLine
    rw [Text.signed, scalar?_of_scanSign sign noDate noTruth, integer, if_pos ?range]
    case range => exact small
    · rfl
    · rw [split, List.cons_append, integer?]
      · rw [← List.cons_append, ← split, sign]
        rfl
      all_goals
        intro tail same
        exact noBase _ rfl (by decide) _ (List.cons.inj same).2
  | negSucc n =>
    have noDate : dateTime? ('-' :: (decimal (n + 1) ++ '\n' :: rest)) = none := by
      have noTwo : twoDigits? ('-' :: (decimal (n + 1) ++ '\n' :: rest)) = none := by
        cases decimal (n + 1) ++ '\n' :: rest <;> rfl
      simp [dateTime?, date?, time?, noTwo]
    rw [Text.signed, List.cons_append, scalar?_of_scanSign rfl noDate rfl rfl, integer, if_pos ?range]
    case range => exact small
    rfl

end Integer

section Value

theorem signed_starts (n : Int) :
    ∃ c cs, Text.signed n = c :: cs ∧ (isDigit c = true ∨ c = '-') := by
  cases n with
  | ofNat n =>
    obtain ⟨d, ds, split⟩ := List.exists_cons_of_ne_nil (Text.decimal_ne_nil n)
    exact ⟨d, ds, split, .inl (Text.isDigit_of_mem_decimal (split ▸ List.mem_cons_self))⟩
  | negSucc n => exact ⟨'-', _, rfl, .inr rfl⟩

theorem writeText_starts (s : String) :
    ∃ c cs, writeText s = c :: cs ∧ (c = '"' ∨ c = '\'') := by
  rw [writeText]
  cases textStyle s.toList with
  | basic => exact ⟨_, _, rfl, .inl rfl⟩
  | literal => exact ⟨_, _, rfl, .inr rfl⟩
  | longBasic => exact ⟨_, _, rfl, .inl rfl⟩
  | longLiteral => exact ⟨_, _, rfl, .inr rfl⟩

theorem value?_writeText (depth : Nat) (s : String) {rest : List Char} (ends : EndsText rest) :
    value? depth (writeText s ++ rest) = some (.text s, rest) := by
  have read := text?_writeText ends s
  obtain ⟨c, cs, split, starts⟩ := writeText_starts s
  rw [split, List.cons_append] at read ⊢
  rw [value?, read]
  · rfl
  all_goals rcases starts with rfl | rfl <;> simp

theorem value?_signed (depth : Nat) {n : Int}
    (small : -9223372036854775808 ≤ n ∧ n ≤ 9223372036854775807) (rest : List Char) :
    value? depth (Text.signed n ++ '\n' :: rest) = some (.int n, '\n' :: rest) := by
  have read := scalar?_signed small rest
  obtain ⟨c, cs, split, starts⟩ := signed_starts n
  have other {d : Char} (no : isDigit d = false ∧ d ≠ '-') : c ≠ d := by
    rintro rfl
    rcases starts with digit | minus
    · rw [no.1] at digit
      cases digit
    · exact no.2 minus
  have noText : text? (c :: (cs ++ '\n' :: rest)) = none := by
    rw [text?] <;> simp [other (d := '"') (by decide), other (d := '\'') (by decide)]
  rw [split, List.cons_append] at read ⊢
  rw [value?, noText, read]
  · rfl
  · simp [other (d := '[') (by decide)]
  · simp [other (d := '\x7b') (by decide)]

theorem skipSpace_of_skipBlanks {cs rest : List Char} {c : Char} (blanks : skipBlanks cs = c :: rest)
    (noComment : c ≠ '#') (noLine : c ≠ '\n') (noCarriage : c ≠ '\r') :
    skipSpace cs = c :: rest := by
  have noBreak : lineBreak? (c :: rest) = none := by
    rw [lineBreak?] <;> simp [noLine, noCarriage]
  cases cs with
  | nil => cases blanks
  | cons d ds =>
    rw [skipSpace, List.length_cons, skipLines, blanks]
    simp [noComment, noBreak]

theorem commaSeparated_cons (x y : List Char) (rest : List (List Char)) :
    commaSeparated (x :: y :: rest) = x ++ ',' :: ' ' :: commaSeparated (y :: rest) := by
  rw [commaSeparated]
  simp

/-- The rest of a list of texts up to its closing bracket. -/
def textsTail (items : List String) (rest : List Char) : List Char :=
  commaSeparated (items.map writeText) ++ ']' :: rest

theorem textsTail_cons (s next : String) (items : List String) (rest : List Char) :
    textsTail (s :: next :: items) rest =
      writeText s ++ ',' :: ' ' :: textsTail (next :: items) rest := by
  simp [textsTail, commaSeparated_cons]

theorem textsTail_starts (items : List String) (rest : List Char) :
    ∃ c cs, textsTail items rest = c :: cs ∧ (c = ']' ∨ c = '"' ∨ c = '\'') := by
  match items with
  | [] => exact ⟨_, _, rfl, .inl rfl⟩
  | [s] =>
    obtain ⟨c, cs, split, marks⟩ := writeText_starts s
    exact ⟨c, cs ++ ']' :: rest, by simp [textsTail, commaSeparated, split], .inr marks⟩
  | s :: next :: items =>
    obtain ⟨c, cs, split, marks⟩ := writeText_starts s
    exact ⟨c, _, by rw [textsTail_cons, split, List.cons_append], .inr marks⟩

theorem skipSpace_textsTail (items : List String) (rest : List Char) :
    skipSpace (textsTail items rest) = textsTail items rest ∧
      skipSpace (' ' :: textsTail items rest) = textsTail items rest := by
  obtain ⟨c, cs, split, marks⟩ := textsTail_starts items rest
  have solid : isBlank c = false ∧ c ≠ '#' ∧ c ≠ '\n' ∧ c ≠ '\r' := by
    rcases marks with rfl | rfl | rfl <;> decide
  obtain ⟨notBlank, noComment, noLine, noCarriage⟩ := solid
  have first := skipBlanks_cons notBlank cs
  rw [split]
  exact ⟨skipSpace_of_skipBlanks first noComment noLine noCarriage,
    @skipSpace_of_skipBlanks (' ' :: c :: cs) cs c first noComment noLine noCarriage⟩

theorem length_textsTail (items : List String) (rest : List Char) :
    items.length < (textsTail items rest).length := by
  induction items with
  | nil => simp [textsTail, commaSeparated]
  | cons s items ih =>
    obtain ⟨c, cs, split, _⟩ := writeText_starts s
    cases items with
    | nil =>
      simp only [textsTail, List.map_cons, List.map_nil, commaSeparated, split, List.length_append,
        List.length_cons, List.length_nil]
      omega
    | cons next items =>
      simp only [textsTail_cons, List.length_append, List.length_cons] at ih ⊢
      omega

/-- The items of a list of texts, with blanks before the first one or without. -/
theorem items?_texts (depth : Nat) {items : List String} {fuel : Nat} (enough : items.length < fuel)
    (done : List Data) {cs rest : List Char} (starts : skipSpace cs = textsTail items rest) :
    items? (value? depth) fuel done cs = some (.list (done.reverse ++ items.map .text), rest) := by
  have close (rest : List Char) : skipSpace (']' :: rest) = ']' :: rest :=
    skipSpace_of_skipBlanks (skipBlanks_cons rfl rest) (by decide) (by decide) (by decide)
  have comma (rest : List Char) : skipSpace (',' :: rest) = ',' :: rest :=
    skipSpace_of_skipBlanks (skipBlanks_cons rfl rest) (by decide) (by decide) (by decide)
  induction items generalizing fuel done cs with
  | nil =>
    cases fuel with
    | zero => cases enough
    | succ fuel =>
      have last : skipSpace cs = ']' :: rest := starts
      simp [items?, last]
  | cons s items ih =>
    cases fuel with
    | zero => cases enough
    | succ fuel =>
      obtain ⟨c, ds, split, marks⟩ := writeText_starts s
      have notClose : c ≠ ']' := by rcases marks with rfl | rfl <;> decide
      cases items with
      | nil =>
        have read := @value?_writeText depth s (']' :: rest) (by rintro c ⟨⟩; decide)
        rw [textsTail, List.map_singleton, commaSeparated] at starts
        rw [split, List.cons_append] at starts read
        simp [items?, starts, notClose, read, close]
      | cons next items =>
        have read := @value?_writeText depth s (',' :: ' ' :: textsTail (next :: items) rest)
          (by rintro c ⟨⟩; decide)
        have more := ih (by simpa using enough) (.text s :: done)
          (skipSpace_textsTail (next :: items) rest).2
        rw [textsTail_cons] at starts
        rw [split, List.cons_append] at starts read
        simp [items?, starts, notClose, read, comma, more]

theorem value?_texts (depth : Nat) (items : List String) (rest : List Char) :
    value? (depth + 1) ('[' :: textsTail items rest) = some (.list (items.map .text), rest) := by
  rw [value?]
  exact items?_texts depth (Nat.lt_succ_of_lt (length_textsTail items rest)) []
    (skipSpace_textsTail items rest).1

/-- An integer must have 64 bits. -/
def Inline.Fits : Inline → Prop
  | .integer n => -9223372036854775808 ≤ n ∧ n ≤ 9223372036854775807
  | _ => True

theorem value?_write {v : Inline} (fits : v.Fits) (rest : List Char) :
    value? maxDepth (v.write ++ '\n' :: rest) = some (v.toData, '\n' :: rest) := by
  cases v with
  | text s => exact value?_writeText maxDepth s (by rintro c ⟨⟩; decide)
  | integer n => exact value?_signed maxDepth fits rest
  | texts items =>
    have read := value?_texts 78 items ('\n' :: rest)
    rw [textsTail] at read
    simpa [Inline.write, Inline.toData, maxDepth] using read

end Value

end LineagePorts.Toml
