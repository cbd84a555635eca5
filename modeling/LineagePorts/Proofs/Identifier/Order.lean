import LineagePorts.Instant.Basic
import LineagePorts.Proofs.Entity.Identifier

/-!
# Identifiers in order

Identifiers of one kind are ordered as their texts are, byte by byte: the texts have one length and
one label, and the digits ascend in the order of their bytes. As the milliseconds are the high part
of the number, an identifier of an earlier millisecond is the smaller one, whatever the random parts
are. Both hold only as long as the clock stays between 1970 and the end of the 48 bits.
-/

namespace LineagePorts

namespace Text

/-- The UTF-8 bytes of a text. Texts are in byte order when these lists are in order. -/
def bytes (s : String) : List UInt8 := s.toUTF8.data.toList

theorem bytes_ofList (cs : List Char) :
    bytes (String.ofList cs) = cs.flatMap String.utf8EncodeChar := by
  rw [bytes, String.toUTF8_eq_toByteArray, String.toByteArray_ofList, List.utf8Encode,
    List.toList_data_toByteArray]

theorem length_bytes (s : String) : (bytes s).length = s.utf8ByteSize := rfl

theorem bytes_append (s t : String) : bytes (s ++ t) = bytes s ++ bytes t := by
  rw [← String.ofList_toList (s := s), ← String.ofList_toList (s := t), ← String.ofList_append,
    bytes_ofList, bytes_ofList, bytes_ofList, List.flatMap_append]

end Text

section Lists

variable {α : Type} [LT α]

theorem append_lt_append_iff (irrefl : ∀ a : α, ¬ a < a) (start xs ys : List α) :
    start ++ xs < start ++ ys ↔ xs < ys := by
  induction start with
  | nil => rfl
  | cons a start ih =>
    rw [List.cons_append, List.cons_append, List.cons_lt_cons_iff, ih]
    simp [irrefl a]

/-- Of two lists of one length the last member decides only when all others agree. -/
theorem append_singleton_lt_iff {xs ys : List α} (long : xs.length = ys.length) (a b : α) :
    xs ++ [a] < ys ++ [b] ↔ xs < ys ∨ xs = ys ∧ a < b := by
  induction xs generalizing ys with
  | nil =>
    obtain rfl := List.length_eq_zero_iff.mp long.symm
    simp [List.cons_lt_cons_iff]
  | cons x xs ih =>
    cases ys with
    | nil => cases long
    | cons y ys =>
      rw [List.cons_append, List.cons_append, List.cons_lt_cons_iff, List.cons_lt_cons_iff,
        ih (Nat.succ.inj long), List.cons.injEq, or_assoc, and_or_left, and_assoc]

end Lists

namespace Ulid

def byte (d : Nat) : UInt8 := (digit d).val.toUInt8

theorem byte_lt_iff {d e : Nat} (small : d < 32) (small' : e < 32) : byte d < byte e ↔ d < e := by
  have all : ∀ d < 32, ∀ e < 32, byte d < byte e ↔ d < e := by decide +kernel
  exact all d small e small'

theorem bytes_digits_succ (count n : Nat) :
    Text.bytes (String.ofList (digits (count + 1) n)) =
      Text.bytes (String.ofList (digits count (n / 32))) ++ [byte (n % 32)] := by
  have one : String.utf8EncodeChar (digit (n % 32)) = [byte (n % 32)] :=
    String.utf8EncodeChar_eq_singleton (utf8Size_digit (Nat.mod_lt n (by decide)))
  rw [digits, Text.bytes_ofList, Text.bytes_ofList, List.flatMap_append, List.flatMap_singleton, one]

theorem length_bytes_digits (count n : Nat) :
    (Text.bytes (String.ofList (digits count n))).length = count := by
  rw [Text.length_bytes, utf8ByteSize_digits]

/-- Numbers that fit into as many digits are in the order of the bytes of these digits. -/
theorem bytes_digits_lt_iff {count a b : Nat} (fits : a < 32 ^ count) (fits' : b < 32 ^ count) :
    Text.bytes (String.ofList (digits count a)) < Text.bytes (String.ofList (digits count b)) ↔
      a < b := by
  induction count generalizing a b with
  | zero =>
    obtain rfl : a = 0 := Nat.lt_one_iff.mp fits
    obtain rfl : b = 0 := Nat.lt_one_iff.mp fits'
    simp [digits, List.lt_irrefl]
  | succ count ih =>
    rw [Nat.pow_succ] at fits fits'
    have high : a / 32 < 32 ^ count := Nat.div_lt_of_lt_mul (by omega)
    have high' : b / 32 < 32 ^ count := Nat.div_lt_of_lt_mul (by omega)
    have long := (length_bytes_digits count (a / 32)).trans (length_bytes_digits count (b / 32)).symm
    -- Equal digits are in neither order, and so the numbers are equal, too.
    have same : Text.bytes (String.ofList (digits count (a / 32))) =
        Text.bytes (String.ofList (digits count (b / 32))) ↔ a / 32 = b / 32 := by
      constructor
      · intro same
        have notLess := ih high high'
        have notMore := ih high' high
        rw [same] at notLess notMore
        simp only [List.lt_irrefl, false_iff, Nat.not_lt] at notLess notMore
        exact Nat.le_antisymm notMore notLess
      · intro same
        rw [same]
    rw [bytes_digits_succ, bytes_digits_succ, append_singleton_lt_iff long, ih high high', same,
      byte_lt_iff (Nat.mod_lt a (by decide)) (Nat.mod_lt b (by decide))]
    omega

theorem value_lt_iff_bytes {u v : Ulid} :
    u.value < v.value ↔ Text.bytes u.text < Text.bytes v.text := by
  have fits (w : Ulid) : w.value < 32 ^ length := Nat.lt_trans w.bound (by decide)
  exact (bytes_digits_lt_iff (fits u) (fits v)).symm

theorem value_ofParts {t : Int} (inRange : 0 ≤ t ∧ t < clockReadings) (random : Nat) :
    (ofParts t random).value = t.toNat * randomParts + random % randomParts := by
  have kept : t % clockReadings = t := Int.emod_eq_of_lt inRange.1 inRange.2
  have low : random % randomParts < randomParts := Nat.mod_lt random (by decide)
  rw [ofParts, kept, ofNat]
  refine Nat.mod_eq_of_lt ?_
  rw [randomParts] at low ⊢
  rw [clockReadings] at inRange
  rw [count]
  omega

theorem milliseconds_ofParts {t : Int} (inRange : 0 ≤ t ∧ t < clockReadings) (random : Nat) :
    ((ofParts t random).milliseconds : Int) = t := by
  have low : random % randomParts < randomParts := Nat.mod_lt random (by decide)
  rw [milliseconds, value_ofParts inRange, Nat.mul_comm, Nat.mul_add_div (by decide),
    Nat.div_eq_of_lt low, Nat.add_zero, Int.toNat_of_nonneg inRange.1]

/-- The milliseconds are the high part of the number. -/
theorem value_lt_of_milliseconds_lt {u v : Ulid} (earlier : u.milliseconds < v.milliseconds) :
    u.value < v.value :=
  Nat.lt_of_not_le fun le => Nat.not_le_of_lt earlier (Nat.div_le_div_right le)

end Ulid

namespace Id

variable {kind : IdKind} {a b : Id kind}

theorem lt_iff_bytes : a < b ↔ Text.bytes a.text < Text.bytes b.text := by
  rw [text, text, Text.bytes_append, Text.bytes_append, append_lt_append_iff UInt8.lt_irrefl, lt_iff,
    Ulid.value_lt_iff_bytes]

/-- The identifier that a generator makes of a clock reading and a random part. -/
def ofClock (now : Instant) (random : Nat) : Id kind := ⟨.ofParts now.milliseconds random⟩

end Id

/-- The moment lies within the 48 bits that an identifier has for its milliseconds. -/
def Instant.InRange (t : Instant) : Prop :=
  0 ≤ t.milliseconds ∧ t.milliseconds < Ulid.clockReadings

instance : DecidablePred Instant.InRange := fun _ => inferInstanceAs (Decidable (_ ∧ _))

namespace Id

variable {kind : IdKind} {t u : Instant}

theorem milliseconds_ofClock (inRange : t.InRange) (random : Nat) :
    ((ofClock t random : Id kind).ulid.milliseconds : Int) = t.milliseconds :=
  Ulid.milliseconds_ofParts inRange random

theorem ofClock_lt_ofClock (inRange : t.InRange) (inRange' : u.InRange)
    (later : t.milliseconds < u.milliseconds) (random random' : Nat) :
    (ofClock t random : Id kind) < ofClock u random' := by
  refine Ulid.value_lt_of_milliseconds_lt ?_
  have first : ((ofClock t random : Id kind).ulid.milliseconds : Int) = t.milliseconds :=
    milliseconds_ofClock inRange random
  have second : ((ofClock u random' : Id kind).ulid.milliseconds : Int) = u.milliseconds :=
    milliseconds_ofClock inRange' random'
  omega

end Id

end LineagePorts
