import LineagePorts.Json.Writer
import LineagePorts.Proofs.Json.Grammar

/-!
# The spellings that are written

Each text and each integer is written in one of the spellings that it may have, and the white space
that is laid out between them counts for nothing.
-/

namespace LineagePorts.Json

section Text

theorem unit?_hexDigits {n : Nat} (small : n < 0x20) :
    unit? '0' '0' (Text.hexDigit (n / 16)) (Text.hexDigit (n % 16)) = some n := by
  have all : ∀ n < 0x20,
      unit? '0' '0' (Text.hexDigit (n / 16)) (Text.hexDigit (n % 16)) = some n := by decide
  exact all n small

/-- A character that was escaped, if need be, stands for itself. -/
theorem Quoted.escapeChar {s cs : List Char} (later : Quoted s cs) (c : Char) :
    Quoted (c :: s) (escapeChar c ++ cs) := by
  have short {letter : Char} (escape : (letter, c) ∈ shortEscapes) :
      Quoted (c :: s) ('\\' :: letter :: cs) := .short escape later
  rw [Json.escapeChar]
  split_ifs with quote slash back form line carriage tab control
  · exact short (by subst quote; decide)
  · exact short (by subst slash; decide)
  · exact short (by subst back; decide)
  · exact short (by subst form; decide)
  · exact short (by subst line; decide)
  · exact short (by subst carriage; decide)
  · exact short (by subst tab; decide)
  · exact .unit (unit?_hexDigits control) later
  · exact .plain quote slash (Nat.not_lt.mp control) later

theorem quoted_escaped (cs : List Char) : Quoted cs (cs.flatMap escapeChar) := by
  induction cs with
  | nil => exact .nil
  | cons c cs ih =>
    rw [List.flatMap_cons]
    exact ih.escapeChar c

theorem spelling_writeText (s : String) : Spelling (.text s) (writeText s) :=
  .text (quoted_escaped s.toList)

end Text

section Number

theorem appendDigits_eq {n : Nat} {ds : List Char}
    (fits : n * 10 ^ ds.length + Text.ofDecimal ds ≤ largestWord) :
    appendDigits n ds = (n * 10 ^ ds.length + Text.ofDecimal ds, 0) := by
  induction ds generalizing n with
  | nil => simp [appendDigits, Text.ofDecimal]
  | cons d ds ih =>
    have readOn : n * 10 ^ (d :: ds).length + Text.ofDecimal (d :: ds) =
        (n * 10 + Text.digitValue d) * 10 ^ ds.length + Text.ofDecimal ds := by
      rw [← Text.foldl_ofDecimal, ← Text.foldl_ofDecimal, List.foldl_cons]
    rw [readOn] at fits ⊢
    have smaller : n * 10 + Text.digitValue d ≤ largestWord := by
      have positive : 0 < 10 ^ ds.length := Nat.pow_pos (by decide)
      have grows := Nat.le_mul_of_pos_right (n * 10 + Text.digitValue d) positive
      omega
    rw [appendDigits, if_pos smaller, ih fits]

namespace Numeral

/-- A number without fraction and exponent. -/
def ofNat (negative : Bool) (n : Nat) : Numeral where
  negative := negative
  whole := ⟨Text.decimal n, Text.decimal_ne_nil n, fun _ => Text.isDigit_of_mem_decimal⟩
  noLeadingZero leading := by
    by_cases zero : n = 0
    · have digit : Text.decimal 0 = ['0'] := by
        rw [Text.decimal]
        rfl
      exact zero ▸ digit
    · exact absurd leading (Text.head?_decimal_ne_zero zero)
  fraction := none
  exponent := none

theorem chars_ofNat (negative : Bool) (n : Nat) :
    (ofNat negative n).chars = (if negative then ['-'] else []) ++ Text.decimal n := by
  have bare : (ofNat negative n).unsigned = Text.decimal n := by
    simp [unsigned, fractionChars, exponentChars, ofNat]
  rw [chars, bare]
  rfl

theorem token_ofNat {negative : Bool} {n : Nat} (fits : n ≤ largestWord)
    (hasSign : negative = true → n ≠ 0) :
    (ofNat negative n).token = .int (negateIf negative n) := by
  have value : appendDigits 0 (Text.decimal n) = (n, 0) := by
    rw [appendDigits_eq] <;> simp [Text.ofDecimal_decimal, fits]
  simpa [token, ofNat, fractionDigits, value, appendDigits] using hasSign

end Numeral

theorem spelling_signed {n : Int} (fits : n.natAbs ≤ largestWord) :
    Spelling (.int n) (Text.signed n) := by
  cases n with
  | ofNat n =>
    have fits : n ≤ largestWord := fits
    have spelling := Spelling.number (.ofNat false n)
    rwa [Numeral.token_ofNat fits (absurd · Bool.false_ne_true), Numeral.chars_ofNat] at spelling
  | negSucc n =>
    have fits : n + 1 ≤ largestWord := fits
    have spelling := Spelling.number (.ofNat true (n + 1))
    rwa [Numeral.token_ofNat fits fun _ => Nat.succ_ne_zero n, Numeral.chars_ofNat] at spelling

theorem endsNumber_cons {c : Char} {cs : List Char} (other : c = ',' ∨ c = ']' ∨ c = '\x7d') :
    EndsNumber (c :: cs) := by
  rintro d ⟨⟩
  rcases other with rfl | rfl | rfl <;> decide

theorem endsNumber_lineBreak {style : Style} {depth : Nat} {cs : List Char}
    (ends : EndsNumber cs) : EndsNumber (style.lineBreak depth ++ cs) := by
  cases style with
  | compact => exact ends
  | pretty =>
    rintro d ⟨⟩
    decide

end Number

namespace Spells

variable {t : Token} {ts : List Token} {cs : List Char} (later : Spells ts cs)

include later

/-- A token that is no number may stand before anything. -/
theorem cons {s : List Char} (first : Spelling t s) (noNumber : ¬ t.IsNumber) :
    Spells (t :: ts) (s ++ cs) :=
  .token first (absurd · noNumber) later

/-- What stands between two parts of a list or record is white space. -/
theorem lineBreak (style : Style) (depth : Nat) : Spells ts (style.lineBreak depth ++ cs) := by
  have spaces (count : Nat) : Spells ts (List.replicate count ' ' ++ cs) := by
    induction count with
    | zero => exact later
    | succ count ih => exact .blank rfl ih
  cases style with
  | compact => exact later
  | pretty => exact .blank rfl (spaces _)

theorem colon (style : Style) : Spells (.colon :: ts) (style.colon ++ cs) := by
  cases style with
  | compact => exact later.cons .colon id
  | pretty => exact Spells.cons (.blank rfl later) .colon id

end Spells

end LineagePorts.Json
