import LineagePorts.Text.Decimal
import Mathlib.Algebra.Group.Nat.Defs
import Mathlib.Data.List.TakeDrop

/-!
# Reading decimal numerals back

A numeral that is written consists of digits and denotes the number that it was written for, also
when it has a fixed width, as far as the number fits into it.
-/

namespace LineagePorts.Text

theorem isDigit_decimalDigit {d : Nat} (small : d < 10) : isDigit (decimalDigit d) = true := by
  have all : ∀ d < 10, isDigit (decimalDigit d) = true := by decide
  exact all d small

theorem digitValue_decimalDigit {d : Nat} (small : d < 10) : digitValue (decimalDigit d) = d := by
  have all : ∀ d < 10, digitValue (decimalDigit d) = d := by decide
  exact all d small

theorem decimalDigit_eq_zero_iff {d : Nat} (small : d < 10) : decimalDigit d = '0' ↔ d = 0 := by
  have all : ∀ d < 10, decimalDigit d = '0' ↔ d = 0 := by decide
  exact all d small

theorem ne_of_isDigit {d c : Char} (digit : isDigit d = true) (other : isDigit c = false) :
    d ≠ c := by
  rintro rfl
  rw [other] at digit
  cases digit

theorem ofDecimal_concat (ds : List Char) (c : Char) :
    ofDecimal (ds ++ [c]) = ofDecimal ds * 10 + digitValue c := by
  rw [ofDecimal, List.foldl_append]
  rfl

/-- Reading on from a number moves it to the left by as many digits. -/
theorem foldl_ofDecimal (n : Nat) (ds : List Char) :
    ds.foldl (fun n c => n * 10 + digitValue c) n = n * 10 ^ ds.length + ofDecimal ds := by
  induction ds generalizing n with
  | nil => simp [ofDecimal]
  | cons d ds ih =>
    rw [ofDecimal, List.foldl_cons, List.foldl_cons, ih, ih, List.length_cons, Nat.pow_succ,
      Nat.zero_mul, Nat.zero_add, Nat.add_mul, Nat.mul_assoc, Nat.mul_comm 10, Nat.add_assoc]

theorem ofDecimal_append (ds es : List Char) :
    ofDecimal (ds ++ es) = ofDecimal ds * 10 ^ es.length + ofDecimal es := by
  rw [ofDecimal, List.foldl_append, foldl_ofDecimal]
  rfl

theorem ofDecimal_decimal (n : Nat) : ofDecimal (decimal n) = n := by
  rw [decimal]
  split
  · rename_i small
    simp [ofDecimal, digitValue_decimalDigit small]
  · have shorter := ofDecimal_decimal (n / 10)
    have last : digitValue (decimalDigit (n % 10)) = n % 10 :=
      digitValue_decimalDigit (Nat.mod_lt n (by decide))
    rw [ofDecimal_concat, shorter, last]
    omega

theorem isDigit_of_mem_decimal {n : Nat} {c : Char} (mem : c ∈ decimal n) : isDigit c = true := by
  rw [decimal] at mem
  split at mem
  · rename_i small
    rw [List.mem_singleton] at mem
    rw [mem, isDigit_decimalDigit small]
  · rcases List.mem_append.mp mem with before | last
    · exact isDigit_of_mem_decimal before
    · rw [List.mem_singleton] at last
      rw [last, isDigit_decimalDigit (Nat.mod_lt n (by decide))]

theorem decimal_ne_nil (n : Nat) : decimal n ≠ [] := by
  rw [decimal]
  split <;> simp

/-- A numeral has no leading zero. -/
theorem head?_decimal_ne_zero {n : Nat} (positive : n ≠ 0) : (decimal n).head? ≠ some '0' := by
  rw [decimal]
  split
  · rename_i small
    simp only [List.head?_cons, ne_eq, Option.some.injEq, decimalDigit_eq_zero_iff small]
    exact positive
  · have shorter : (decimal (n / 10)).head? ≠ some '0' := head?_decimal_ne_zero (by omega)
    obtain ⟨d, ds, split⟩ := List.exists_cons_of_ne_nil (decimal_ne_nil (n / 10))
    rw [split] at shorter ⊢
    exact shorter

theorem length_padded (width n : Nat) : (padded width n).length = width := by
  induction width generalizing n with
  | zero => rfl
  | succ width ih => rw [padded, List.length_append, ih, List.length_singleton]

theorem isDigit_of_mem_padded {width n : Nat} {c : Char} (mem : c ∈ padded width n) :
    isDigit c = true := by
  induction width generalizing n with
  | zero => cases mem
  | succ width ih =>
    rw [padded] at mem
    rcases List.mem_append.mp mem with before | last
    · exact ih before
    · rw [List.mem_singleton] at last
      rw [last, isDigit_decimalDigit (Nat.mod_lt n (by decide))]

theorem ofDecimal_padded (width n : Nat) : ofDecimal (padded width n) = n % 10 ^ width := by
  induction width generalizing n with
  | zero => simp [padded, ofDecimal, Nat.mod_one]
  | succ width ih =>
    have last : digitValue (decimalDigit (n % 10)) = n % 10 :=
      digitValue_decimalDigit (Nat.mod_lt n (by decide))
    rw [padded, ofDecimal_concat, ih, last, Nat.pow_succ, Nat.mul_comm (10 ^ width) 10,
      Nat.mod_mul]
    omega

theorem ofDecimal_replicate_zero (count : Nat) : ofDecimal (List.replicate count '0') = 0 := by
  induction count with
  | zero => rfl
  | succ count ih =>
    rw [List.replicate_succ', ofDecimal_concat, ih]
    rfl

theorem ofDecimal_decimalWidth (width n : Nat) : ofDecimal (decimalWidth width n) = n := by
  rw [decimalWidth, List.leftpad, ofDecimal_append, ofDecimal_replicate_zero, ofDecimal_decimal,
    Nat.zero_mul, Nat.zero_add]

theorem isDigit_of_mem_decimalWidth {width n : Nat} {c : Char} (mem : c ∈ decimalWidth width n) :
    isDigit c = true := by
  rcases List.mem_append.mp mem with pad | digit
  · rw [(List.mem_replicate.mp pad).2]
    rfl
  · exact isDigit_of_mem_decimal digit

theorem decimalWidth_ne_nil (width n : Nat) : decimalWidth width n ≠ [] :=
  List.append_ne_nil_of_right_ne_nil _ (decimal_ne_nil n)

/-- What follows a numeral does not go on with a digit. -/
def EndsNumeral (cs : List Char) : Prop := ∀ c ∈ cs.head?, isDigit c = false

theorem takeWhile_isDigit {ds rest : List Char} (digits : ∀ c ∈ ds, isDigit c = true)
    (ends : EndsNumeral rest) : (ds ++ rest).takeWhile isDigit = ds := by
  rw [List.takeWhile_append_of_pos digits]
  cases rest with
  | nil => simp
  | cons c rest =>
    have stop : isDigit c = false := ends c rfl
    simp [stop]

theorem span_isDigit {ds rest : List Char} (digits : ∀ c ∈ ds, isDigit c = true)
    (ends : EndsNumeral rest) : (ds ++ rest).span isDigit = (ds, rest) := by
  rw [List.span_eq_takeWhile_dropWhile, takeWhile_isDigit digits ends,
    List.dropWhile_append_of_pos digits]
  cases rest with
  | nil => rfl
  | cons c rest =>
    have stop : isDigit c = false := ends c rfl
    rw [List.dropWhile_cons_of_neg (ne_true_of_eq_false stop)]

end LineagePorts.Text
