import LineagePorts.Json.Token
import LineagePorts.Proofs.Text.Decimal

/-!
# The grammar of JSON texts

How the tokens of a JSON text may be written, told without a reader. A character of a text stands for
itself, behind a backslash or as UTF-16 units in hexadecimal digits, a number has a fraction and an
exponent or not, and white space may stand between any two tokens. Cutting a text gives back the tokens
that it spells. A number must not run into what follows it.
-/

namespace LineagePorts.Json

section Text

/-- The letters that may stand behind a backslash, and the characters that they stand for. -/
def shortEscapes : List (Char × Char) :=
  [('"', '"'), ('\\', '\\'), ('/', '/'), ('b', '\x08'), ('f', '\x0c'), ('n', '\n'), ('r', '\r'),
   ('t', '\t')]

/-- The characters of a text and what may stand for them between quotes. -/
inductive Quoted : List Char → List Char → Prop where
  | nil : Quoted [] []
  | plain {c : Char} {s cs : List Char} (notQuote : c ≠ '"') (notBackslash : c ≠ '\\')
      (printable : 0x20 ≤ c.toNat) (later : Quoted s cs) : Quoted (c :: s) (c :: cs)
  | short {letter c : Char} {s cs : List Char} (escape : (letter, c) ∈ shortEscapes)
      (later : Quoted s cs) : Quoted (c :: s) ('\\' :: letter :: cs)
  | unit {c h₁ h₂ h₃ h₄ : Char} {s cs : List Char} (digits : unit? h₁ h₂ h₃ h₄ = some c.toNat)
      (later : Quoted s cs) : Quoted (c :: s) ('\\' :: 'u' :: h₁ :: h₂ :: h₃ :: h₄ :: cs)
  /-- A character that does not fit into one UTF-16 unit is written as a surrogate pair. -/
  | pair {c h₁ h₂ h₃ h₄ l₁ l₂ l₃ l₄ : Char} {s cs : List Char} (large : 0x10000 ≤ c.toNat)
      (leading : unit? h₁ h₂ h₃ h₄ = some (0xD800 + (c.toNat - 0x10000) / 1024))
      (trailing : unit? l₁ l₂ l₃ l₄ = some (0xDC00 + (c.toNat - 0x10000) % 1024))
      (later : Quoted s cs) :
      Quoted (c :: s) ('\\' :: 'u' :: h₁ :: h₂ :: h₃ :: h₄ ::
        '\\' :: 'u' :: l₁ :: l₂ :: l₃ :: l₄ :: cs)

/-- A text that is being read and has no surrogates. -/
def plainText (done : List Char) : OpenText := ⟨done, true, none⟩

theorem push_plainText (done : List Char) (c : Char) :
    (plainText done).push c = plainText (c :: done) := rfl

/-- No character is a surrogate. -/
theorem toNat_cases (c : Char) : c.toNat < 0xD800 ∨ 0xDFFF < c.toNat ∧ c.toNat < 0x110000 := c.valid

theorem isLeading_eq_false {unit : Nat} (other : unit < 0xD800 ∨ 0xDBFF < unit) :
    isLeading unit = false := by
  simp only [isLeading, Bool.and_eq_false_iff, decide_eq_false_iff_not]
  omega

theorem isTrailing_eq_false {unit : Nat} (other : unit < 0xDC00 ∨ 0xDFFF < unit) :
    isTrailing unit = false := by
  simp only [isTrailing, Bool.and_eq_false_iff, decide_eq_false_iff_not]
  omega

theorem pushUnit_toNat (done : List Char) (c : Char) :
    (plainText done).pushUnit c.toNat = plainText (c :: done) := by
  have notLeading : isLeading c.toNat = false := by
    have cases := toNat_cases c
    exact isLeading_eq_false (by omega)
  have notTrailing : isTrailing c.toNat = false := by
    have cases := toNat_cases c
    exact isTrailing_eq_false (by omega)
  rw [OpenText.pushUnit, notLeading, notTrailing, if_neg Bool.false_ne_true,
    if_neg Bool.false_ne_true, Char.ofNat_toNat, push_plainText]

theorem pushUnit_pair (done : List Char) {c : Char} (large : 0x10000 ≤ c.toNat) :
    ((plainText done).pushUnit (0xD800 + (c.toNat - 0x10000) / 1024)).pushUnit
        (0xDC00 + (c.toNat - 0x10000) % 1024) = plainText (c :: done) := by
  have bound : c.toNat < 0x110000 := by
    have cases := toNat_cases c
    omega
  have leads : isLeading (0xD800 + (c.toNat - 0x10000) / 1024) = true := by
    simp only [isLeading, Bool.and_eq_true, decide_eq_true_eq]
    omega
  have notLeading : isLeading (0xDC00 + (c.toNat - 0x10000) % 1024) = false :=
    isLeading_eq_false (by omega)
  have trails : isTrailing (0xDC00 + (c.toNat - 0x10000) % 1024) = true := by
    simp only [isTrailing, Bool.and_eq_true, decide_eq_true_eq]
    omega
  have joined : pairChar (0xD800 + (c.toNat - 0x10000) / 1024)
      (0xDC00 + (c.toNat - 0x10000) % 1024) = c := by
    have number : (0xD800 + (c.toNat - 0x10000) / 1024 - 0xD800) * 1024 +
        (0xDC00 + (c.toNat - 0x10000) % 1024 - 0xDC00) + 0x10000 = c.toNat := by omega
    rw [pairChar, number, Char.ofNat_toNat]
  have opened : (plainText done).pushUnit (0xD800 + (c.toNat - 0x10000) / 1024) =
      ⟨done, true, some (0xD800 + (c.toNat - 0x10000) / 1024)⟩ := by
    rw [OpenText.pushUnit, leads, if_pos rfl]
    rfl
  rw [opened, OpenText.pushUnit, notLeading, trails, if_neg Bool.false_ne_true, if_pos rfl]
  dsimp only
  rw [joined]
  rfl

theorem escaped?_of_mem {letter c : Char} (mem : (letter, c) ∈ shortEscapes) :
    letter ≠ 'u' ∧ escaped? letter = some c := by
  have all : ∀ e ∈ shortEscapes, e.1 ≠ 'u' ∧ escaped? e.1 = some e.2 := by decide
  exact all (letter, c) mem

/-- A text is read from what stands between its quotes. -/
theorem scanText_quoted {s cs : List Char} (quoted : Quoted s cs) (done rest : List Char) :
    scanText (plainText done) (cs ++ '"' :: rest) =
      some (.text (String.ofList (done.reverse ++ s)), rest) := by
  induction quoted generalizing done with
  | nil =>
    rw [List.nil_append, scanText, List.append_nil]
    rfl
  | @plain c s cs notQuote notBackslash printable later ih =>
    have next := ih (c :: done)
    rw [List.reverse_cons, List.append_assoc] at next
    rw [List.cons_append, scanText, if_neg (Nat.not_lt.mpr printable), push_plainText]
    · exact next
    · exact notQuote
    · exact fun _ _ _ _ _ backslash _ => notBackslash backslash
    · exact fun _ _ backslash _ => notBackslash backslash
  | @short letter c s cs escape later ih =>
    obtain ⟨notUnit, stands⟩ := escaped?_of_mem escape
    have next := ih (c :: done)
    rw [List.reverse_cons, List.append_assoc] at next
    rw [List.cons_append, List.cons_append, scanText, stands]
    · exact next
    · intro _ _ _ _ _ same _
      exact notUnit same
  | @unit c h₁ h₂ h₃ h₄ s cs digits later ih =>
    have next := ih (c :: done)
    rw [List.reverse_cons, List.append_assoc] at next
    simp only [List.cons_append, scanText, digits, pushUnit_toNat]
    exact next
  | @pair c h₁ h₂ h₃ h₄ l₁ l₂ l₃ l₄ s cs large leading trailing later ih =>
    have next := ih (c :: done)
    rw [List.reverse_cons, List.append_assoc] at next
    simp only [List.cons_append, scanText, leading, trailing, pushUnit_pair done large]
    exact next

end Text

section Number

/-- One or more digits. -/
structure Digits where
  chars : List Char
  nonempty : chars ≠ []
  areDigits : ∀ c ∈ chars, Text.isDigit c = true

inductive Sign where
  | none
  | plus
  | minus

def Sign.chars : Sign → List Char
  | .none => []
  | .plus => ['+']
  | .minus => ['-']

def Sign.isMinus : Sign → Bool
  | .minus => true
  | _ => false

structure Exponent where
  mark : Char
  isMark : mark = 'e' ∨ mark = 'E'
  sign : Sign
  digits : Digits

namespace Exponent

def chars (e : Exponent) : List Char := e.mark :: e.sign.chars ++ e.digits.chars

def value (e : Exponent) : Int := negateIf e.sign.isMinus (Text.ofDecimal e.digits.chars)

end Exponent

/-- The parts of a number. Its integer digits have no leading zero. -/
structure Numeral where
  negative : Bool
  whole : Digits
  noLeadingZero : whole.chars.head? = some '0' → whole.chars = ['0']
  fraction : Option Digits
  exponent : Option Exponent

namespace Numeral

variable (n : Numeral)

def exponentChars : List Char := (n.exponent.map Exponent.chars).getD []

def fractionDigits : List Char := (n.fraction.map Digits.chars).getD []

def fractionChars : List Char := (n.fraction.map fun ds => '.' :: ds.chars).getD []

def unsigned : List Char := n.whole.chars ++ n.fractionChars ++ n.exponentChars

def chars : List Char := (if n.negative then ['-'] else []) ++ n.unsigned

/-- The token of a number without fraction and exponent is an integer if that has at most 64 bits. -/
def token : Token :=
  let (leading, spare) := appendDigits 0 n.whole.chars
  let (mantissa, unused) := appendDigits leading n.fractionDigits
  if n.fraction.isNone && n.exponent.isNone && spare = 0 && !(n.negative && mantissa = 0) then
    .int (negateIf n.negative mantissa)
  else
    let shift : Int := spare - (n.fractionDigits.length - unused : Nat)
    .real (negateIf n.negative mantissa) ((n.exponent.map Exponent.value).getD 0 + shift)

end Numeral

/-- What follows a number does not go on with it. -/
def EndsNumber (cs : List Char) : Prop :=
  ∀ c ∈ cs.head?, Text.isDigit c = false ∧ c ≠ '.' ∧ c ≠ 'e' ∧ c ≠ 'E'

theorem EndsNumber.endsNumeral {cs : List Char} (ends : EndsNumber cs) : Text.EndsNumeral cs :=
  fun c mem => (ends c mem).1

namespace Digits

theorem span_append (ds : Digits) {rest : List Char} (ends : Text.EndsNumeral rest) :
    (ds.chars ++ rest).span Text.isDigit = (ds.chars, rest) :=
  Text.span_isDigit ds.areDigits ends

theorem chars_eq_cons (ds : Digits) :
    ∃ d cs, ds.chars = d :: cs ∧ Text.isDigit d = true := by
  obtain ⟨d, cs, split⟩ := List.exists_cons_of_ne_nil ds.nonempty
  exact ⟨d, cs, split, ds.areDigits d (by rw [split]; exact List.mem_cons_self)⟩

end Digits

theorem scanExponent_chars (e : Exponent) {rest : List Char} (ends : Text.EndsNumeral rest) :
    scanExponent (e.chars ++ rest) = some (some e.value, rest) := by
  obtain ⟨mark, isMark, sign, digits⟩ := e
  have read := digits.span_append ends
  cases sign with
  | none =>
    obtain ⟨d, cs, split, digit⟩ := digits.chars_eq_cons
    have notMinus : d ≠ '-' := Text.ne_of_isDigit digit rfl
    have notPlus : d ≠ '+' := Text.ne_of_isDigit digit rfl
    rw [split, List.cons_append] at read
    simp [-List.span_eq_takeWhile_dropWhile, scanExponent, Exponent.chars, Exponent.value,
      Sign.chars, Sign.isMinus, isMark, split, notMinus, notPlus, read]
  | plus =>
    simp [-List.span_eq_takeWhile_dropWhile, scanExponent, Exponent.chars, Exponent.value,
      Sign.chars, Sign.isMinus, isMark, read, digits.nonempty]
  | minus =>
    simp [-List.span_eq_takeWhile_dropWhile, scanExponent, Exponent.chars, Exponent.value,
      Sign.chars, Sign.isMinus, isMark, read, digits.nonempty]

theorem scanExponent_of_ends {rest : List Char} (ends : EndsNumber rest) :
    scanExponent rest = some (none, rest) := by
  cases rest with
  | nil => rfl
  | cons c rest =>
    obtain ⟨_, _, notLower, notUpper⟩ := ends c rfl
    simp [scanExponent, notLower, notUpper]

theorem token?_of_isDigit {d : Char} (digit : Text.isDigit d = true) (cs : List Char) :
    token? (d :: cs) = scanNumber false (d :: cs) := by
  rw [token?.eq_def]
  split
  all_goals first
    | rfl
    | rename_i same
      exact absurd (List.cons.inj same).1 (Text.ne_of_isDigit digit rfl)

namespace Numeral

variable (n : Numeral) {rest : List Char} (ends : EndsNumber rest)

/-- What follows the digits of a number is none of its digits, and no point after the fraction. -/
theorem head_exponentChars {c : Char} (mem : c ∈ n.exponentChars.head?) : c = 'e' ∨ c = 'E' := by
  rw [exponentChars] at mem
  cases exponent : n.exponent with
  | none => simp [exponent] at mem
  | some e =>
    simp only [exponent, Option.map_some, Option.getD_some, Exponent.chars, List.cons_append,
      List.head?_cons, Option.mem_def, Option.some.injEq] at mem
    exact mem ▸ e.isMark

include ends

theorem scanExponent_append :
    scanExponent (n.exponentChars ++ rest) = some (n.exponent.map Exponent.value, rest) := by
  rw [exponentChars]
  cases n.exponent with
  | none => exact scanExponent_of_ends ends
  | some e => exact scanExponent_chars e ends.endsNumeral

theorem head_exponent_append {c : Char} (mem : c ∈ (n.exponentChars ++ rest).head?) :
    Text.isDigit c = false ∧ c ≠ '.' := by
  cases exponent : n.exponentChars with
  | nil =>
    rw [exponent] at mem
    have stops := ends c mem
    exact ⟨stops.1, stops.2.1⟩
  | cons d ds =>
    rw [exponent] at mem
    have marked := n.head_exponentChars (c := c) (by rw [exponent]; exact mem)
    rcases marked with rfl | rfl <;> decide

theorem scanFraction_append :
    scanFraction (n.fractionChars ++ (n.exponentChars ++ rest)) =
      some (n.fraction.map Digits.chars, n.exponentChars ++ rest) := by
  rw [fractionChars]
  cases n.fraction with
  | none =>
    show scanFraction (n.exponentChars ++ rest) = some (none, n.exponentChars ++ rest)
    cases after : n.exponentChars ++ rest with
    | nil => rfl
    | cons c cs =>
      have notPoint : c ≠ '.' := (n.head_exponent_append ends (by rw [after]; rfl)).2
      rw [scanFraction]
      rintro cs ⟨⟩
      exact notPoint rfl
  | some ds =>
    have stops : Text.EndsNumeral (n.exponentChars ++ rest) :=
      fun c mem => (n.head_exponent_append ends mem).1
    have read := ds.span_append stops
    simp [-List.span_eq_takeWhile_dropWhile, scanFraction, read, ds.nonempty]

theorem scanTail_append :
    scanTail n.negative n.whole.chars (n.fractionChars ++ (n.exponentChars ++ rest)) =
      some (n.token, rest) := by
  rw [scanTail, n.scanFraction_append ends]
  simp only [Option.bind_eq_bind, Option.bind_some, n.scanExponent_append ends]
  rw [token, fractionDigits]
  simp only [Option.isNone_map]
  split <;> rfl

/-- A number is read up to what does not go on with it. -/
theorem scanNumber_append : scanNumber n.negative (n.unsigned ++ rest) = some (n.token, rest) := by
  have stops : Text.EndsNumeral (n.fractionChars ++ (n.exponentChars ++ rest)) := by
    intro c mem
    rw [fractionChars] at mem
    cases fraction : n.fraction with
    | none =>
      rw [fraction] at mem
      exact (n.head_exponent_append ends mem).1
    | some ds =>
      rw [fraction] at mem
      obtain rfl : '.' = c := Option.some.inj mem
      rfl
  have digits := n.whole.span_append stops
  rw [unsigned, List.append_assoc, List.append_assoc, ← n.scanTail_append ends, scanNumber.eq_def]
  split
  · rename_i cs zero
    obtain ⟨d, ds, split, digit⟩ := n.whole.chars_eq_cons
    have isZero : n.whole.chars = ['0'] := by
      refine n.noLeadingZero ?_
      rw [split] at zero ⊢
      exact congrArg some (List.cons.inj zero).1
    rw [isZero] at zero ⊢
    obtain rfl : n.fractionChars ++ (n.exponentChars ++ rest) = cs := (List.cons.inj zero).2
    rfl
  · rw [digits]
    simp [n.whole.nonempty]

theorem token?_append : token? (n.chars ++ rest) = some (n.token, rest) := by
  have read := n.scanNumber_append ends
  rw [chars]
  cases negative : n.negative with
  | true =>
    rw [negative] at read
    exact read
  | false =>
    rw [negative] at read
    obtain ⟨d, ds, split, digit⟩ := n.whole.chars_eq_cons
    rw [unsigned, split] at read ⊢
    exact (token?_of_isDigit digit _).trans read

end Numeral

end Number

/-- How a token is written. Half a surrogate pair has no spelling here. -/
inductive Spelling : Token → List Char → Prop where
  | openRecord : Spelling .openRecord ['\x7b']
  | closeRecord : Spelling .closeRecord ['\x7d']
  | openList : Spelling .openList ['[']
  | closeList : Spelling .closeList [']']
  | colon : Spelling .colon [':']
  | comma : Spelling .comma [',']
  | null : Spelling .null ['n', 'u', 'l', 'l']
  | trueName : Spelling (.bool true) ['t', 'r', 'u', 'e']
  | falseName : Spelling (.bool false) ['f', 'a', 'l', 's', 'e']
  | text {s : String} {cs : List Char} (quoted : Quoted s.toList cs) :
      Spelling (.text s) ('"' :: (cs ++ ['"']))
  | number (n : Numeral) : Spelling n.token n.chars

def Token.IsNumber : Token → Prop
  | .int _ => True
  | .real _ _ => True
  | _ => False

/-- A text that consists of spellings of these tokens, with white space between them as one likes. -/
inductive Spells : List Token → List Char → Prop where
  | nil : Spells [] []
  | blank {ts : List Token} {c : Char} {cs : List Char} (space : isSpace c = true)
      (later : Spells ts cs) : Spells ts (c :: cs)
  | token {t : Token} {ts : List Token} {s cs : List Char} (first : Spelling t s)
      (apart : t.IsNumber → EndsNumber cs) (later : Spells ts cs) : Spells (t :: ts) (s ++ cs)

theorem Numeral.isNumber_token (n : Numeral) : n.token.IsNumber := by
  rw [token]
  dsimp only
  split <;> trivial

namespace Spelling

variable {t : Token} {s : List Char}

theorem token?_append (spelling : Spelling t s) {rest : List Char}
    (apart : t.IsNumber → EndsNumber rest) : token? (s ++ rest) = some (t, rest) := by
  cases spelling with
  | @text s cs quoted =>
    have read := scanText_quoted quoted [] rest
    rw [List.reverse_nil, List.nil_append, String.ofList_toList] at read
    rw [List.cons_append, List.append_assoc]
    exact read
  | number n => exact n.token?_append (apart n.isNumber_token)
  | _ => rfl

theorem eq_cons (spelling : Spelling t s) : ∃ c cs, s = c :: cs ∧ isSpace c = false := by
  cases spelling with
  | number n =>
    obtain ⟨d, ds, split, digit⟩ := n.whole.chars_eq_cons
    rw [Numeral.chars, Numeral.unsigned, split]
    cases n.negative with
    | true => exact ⟨'-', _, rfl, rfl⟩
    | false =>
      have other (c : Char) (no : Text.isDigit c = false) : d ≠ c := Text.ne_of_isDigit digit no
      refine ⟨d, _, rfl, ?_⟩
      simp [isSpace, other ' ' rfl, other '\n' rfl, other '\t' rfl, other '\r' rfl]
  | _ => exact ⟨_, _, rfl, rfl⟩

end Spelling

theorem scan_of_spells {ts : List Token} {cs : List Char} (spells : Spells ts cs) {fuel : Nat}
    (enough : cs.length ≤ fuel) (done : List Token) :
    scan fuel done cs = some (done.reverse ++ ts) := by
  induction spells generalizing fuel done with
  | nil => cases fuel <;> simp [scan]
  | blank space later ih =>
    cases fuel with
    | zero => cases enough
    | succ fuel =>
      rw [scan, if_pos space]
      exact ih (Nat.le_of_succ_le_succ enough) done
  | @token t ts s cs first apart later ih =>
    have read := first.token?_append apart
    obtain ⟨c, rest, rfl, notBlank⟩ := first.eq_cons
    cases fuel with
    | zero => cases enough
    | succ fuel =>
      have shorter : cs.length ≤ fuel := by
        rw [List.cons_append, List.length_cons, List.length_append] at enough
        omega
      rw [List.cons_append] at read ⊢
      rw [scan, if_neg (ne_true_of_eq_false notBlank), read]
      dsimp only
      rw [ih shorter, List.reverse_cons, List.append_assoc]
      rfl

theorem tokens_of_spells {ts : List Token} {cs : List Char} (spells : Spells ts cs) :
    tokens cs = some ts :=
  scan_of_spells spells (Nat.le_refl _) []

end LineagePorts.Json
