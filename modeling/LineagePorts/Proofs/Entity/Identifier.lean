import LineagePorts.Identifier
import LineagePorts.Parameter
import LineagePorts.Proofs.Text.Blank
import Mathlib.Algebra.Group.Nat.Defs

/-!
# Reading identifiers back

The text of a ULID has as many digits as a ULID needs, so it is read back as the same ULID. The
label in front of an identifier and its digits hold no white space, so the identifier is read back
from its text, too, wherever a parameter is one.
-/

namespace LineagePorts

namespace Ulid

theorem digitValue?_digit {d : Nat} (small : d < 32) : digitValue? (digit d) = some d := by
  have all : ∀ d < 32, digitValue? (digit d) = some d := by decide +kernel
  exact all d small

theorem utf8Size_digit {d : Nat} (small : d < 32) : (digit d).utf8Size = 1 := by
  have all : ∀ d < 32, (digit d).utf8Size = 1 := by decide +kernel
  exact all d small

theorem evaluate_append (high : Nat) (ds es : List Char) :
    evaluate high (ds ++ es) = (evaluate high ds).bind fun n => evaluate n es := by
  induction ds generalizing high with
  | nil => rfl
  | cons d ds ih =>
    rw [List.cons_append, evaluate, evaluate]
    cases digitValue? d with
    | none => rfl
    | some value => exact ih _

theorem evaluate_digits (count n high : Nat) :
    evaluate high (digits count n) = some (high * 32 ^ count + n % 32 ^ count) := by
  induction count generalizing n with
  | zero => simp [digits, evaluate, Nat.mod_one]
  | succ count ih =>
    have last : digitValue? (digit (n % 32)) = some (n % 32) :=
      digitValue?_digit (Nat.mod_lt n (by decide))
    rw [digits, evaluate_append, ih, Option.bind_some, evaluate, last]
    dsimp only
    rw [evaluate, Nat.pow_succ, Nat.mul_comm (32 ^ count) 32, Nat.mod_mul]
    congr 1
    rw [Nat.add_mul, Nat.mul_comm 32 (32 ^ count), Nat.mul_assoc]
    omega

theorem utf8ByteSize_digits (count n : Nat) :
    (String.ofList (digits count n)).utf8ByteSize = count := by
  induction count generalizing n with
  | zero => rfl
  | succ count ih =>
    have last : (digit (n % 32)).utf8Size = 1 := utf8Size_digit (Nat.mod_lt n (by decide))
    rw [digits, String.ofList_append, String.utf8ByteSize_append, ih, ← String.singleton_eq_ofList,
      String.utf8ByteSize_singleton, last]

theorem ofText_text (u : Ulid) : ofText u.text = .ok u := by
  have inRange : u.value % 32 ^ length = u.value :=
    Nat.mod_eq_of_lt (Nat.lt_trans u.bound (by decide))
  have read : evaluate 0 (digits length u.value) = some u.value := by
    rw [evaluate_digits, inRange, Nat.zero_mul, Nat.zero_add]
  rw [ofText, text, utf8ByteSize_digits, if_pos rfl, String.toList_ofList, read]
  dsimp only
  rw [ofNat_value]

theorem isSpace_of_mem_digits {count n : Nat} {c : Char} (mem : c ∈ digits count n) :
    Text.isSpace c = false := by
  have all : ∀ d < 32, Text.isSpace (digit d) = false := by decide +kernel
  induction count generalizing n with
  | zero => cases mem
  | succ count ih =>
    rcases List.mem_append.mp mem with before | last
    · exact ih before
    · rw [List.mem_singleton.mp last]
      exact all _ (Nat.mod_lt n (by decide))

end Ulid

namespace Id

variable {kind : IdKind}

theorem isSpace_of_mem_text {id : Id kind} {c : Char} (mem : c ∈ id.text.toList) :
    Text.isSpace c = false := by
  have label : kind.label.toList.all (fun c => !Text.isSpace c) = true := by
    cases kind <;> decide +kernel
  rw [text, Ulid.text, String.toList_append, String.toList_ofList] at mem
  rcases List.mem_append.mp mem with inLabel | inDigits
  · simpa using List.all_eq_true.mp label c inLabel
  · exact Ulid.isSpace_of_mem_digits inDigits

theorem dropLabel_append (label cs : List Char) : dropLabel label (label ++ cs) = cs := by
  simp [dropLabel]

theorem ofText_text (id : Id kind) : ofText id.text = .ok id := by
  have trimmed : Text.trim id.text.toList = kind.label.toList ++ id.ulid.text.toList := by
    rw [Text.trim_of_no_space fun c mem => isSpace_of_mem_text mem, text, String.toList_append]
  rw [ofText, trimmed, dropLabel_append, String.ofList_toList, Ulid.ofText_text]
  rfl

theorem isBlank_text (id : Id kind) : Text.isBlank id.text = false := by
  have start : kind.label.toList ≠ [] := by
    cases kind <;> decide +kernel
  rw [← Bool.not_eq_true, Text.isBlank_iff_trim,
    Text.trim_of_no_space fun c mem => isSpace_of_mem_text mem, text, String.toList_append]
  simp [start]

end Id

/-- A parameter that is the text of an identifier denotes that identifier. -/
theorem Parameter.readId_text (id : EntityId) (parameter action : String) :
    readId id.text parameter action = .ok id := by
  have named : checkName id.text parameter action = .ok () := by
    rw [checkName, id.isBlank_text]
    rfl
  rw [readId, named, Id.ofText_text]
  rfl

end LineagePorts
