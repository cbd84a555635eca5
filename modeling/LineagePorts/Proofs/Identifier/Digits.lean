import LineagePorts.Proofs.Entity.Identifier
import Mathlib.Data.Nat.Digits.Lemmas

/-!
# The number that digits denote

A list of characters is a ULID when it has 26 bytes and every character is a digit, of either case.
What it denotes is its number in base 32, of which the low 128 bits are kept. The 25 digits after
the first are 125 of these bits and are told by the number. Of the first digit three bits are left,
so that it counts only modulo 8.
-/

namespace LineagePorts.Ulid

/-- The character is the digit for `d`, in upper or in lower case. -/
def Denotes (c : Char) (d : Nat) : Prop :=
  d < 32 ∧ (c = digit d ∨ c = (digit d).toLower)

instance (c : Char) (d : Nat) : Decidable (Denotes c d) :=
  inferInstanceAs (Decidable (_ ∧ _))

theorem digitValue?_eq_some_iff {c : Char} {d : Nat} : digitValue? c = some d ↔ Denotes c d := by
  constructor
  · intro value
    have ascii : c.toNat < 128 := by
      rw [digitValue?] at value
      exact (Option.ite_none_right_eq_some.mp value).1
    exact Text.of_ascii (P := fun c => ∀ d ∈ digitValue? c, Denotes c d) (by decide +kernel) ascii
      d value
  · rintro ⟨small, rfl | rfl⟩
    · exact digitValue?_digit small
    · have all : ∀ d < 32, digitValue? (digit d).toLower = some d := by decide +kernel
      exact all d small

namespace Denotes

variable {c b : Char} {d e : Nat}

/-- What holds of the digits in upper and in lower case holds of every character for a digit. -/
theorem all {P : Char → Nat → Prop} (each : ∀ d < 32, P (digit d) d ∧ P (digit d).toLower d)
    (h : Denotes c d) : P c d := by
  obtain ⟨small, rfl | rfl⟩ := h
  · exact (each d small).1
  · exact (each d small).2

theorem utf8Size_eq (h : Denotes c d) : c.utf8Size = 1 :=
  h.all (P := fun c _ => c.utf8Size = 1) (by decide +kernel)

theorem isSpace_eq (h : Denotes c d) : Text.isSpace c = false :=
  h.all (P := fun c _ => Text.isSpace c = false) (by decide +kernel)

theorem ne_hyphen (h : Denotes c d) : c ≠ '-' :=
  h.all (P := fun c _ => c ≠ '-') (by decide +kernel)

theorem toUpper_eq (h : Denotes c d) : c.toUpper = digit d :=
  h.all (P := fun c d => c.toUpper = digit d) (by decide +kernel)

/-- Two digits are the same up to case when they denote the same. -/
theorem eq_iff_toUpper (first : Denotes c d) (second : Denotes b e) :
    d = e ↔ c.toUpper = b.toUpper := by
  rw [first.toUpper_eq, second.toUpper_eq]
  constructor
  · exact congrArg digit
  · intro same
    have value := digitValue?_digit first.1
    rw [same, digitValue?_digit second.1] at value
    exact (Option.some.inj value).symm

end Denotes

/-- A character that is a digit in upper case is one in any case. -/
theorem denotes_of_toUpper {c : Char} {d : Nat} (small : d < 32) (upper : c.toUpper = digit d) :
    Denotes c d := by
  rcases Text.ascii_or_toUpper_eq c with ascii | same
  · exact Text.of_ascii (P := fun c => ∀ d < 32, c.toUpper = digit d → Denotes c d)
      (by decide +kernel) ascii d small upper
  · exact ⟨small, .inl (same.symm.trans upper)⟩

/-- What holds of every digit holds of every character of a numeral. -/
theorem forall_mem_of_denotes {P : Char → Prop} (each : ∀ {c d}, Denotes c d → P c)
    {cs : List Char} {ds : List Nat} (denotes : List.Forall₂ Denotes cs ds) : ∀ c ∈ cs, P c :=
  ((List.forall₂_and_left cs ds).mp (denotes.imp fun _ _ digit => ⟨each digit, digit⟩)).1

/-- The number of a list of digits, the most significant of them first. -/
def number (ds : List Nat) : Nat := Nat.ofDigits 32 ds.reverse

theorem number_cons (d : Nat) (ds : List Nat) : number (d :: ds) = d * 32 ^ ds.length + number ds := by
  rw [number, List.reverse_cons, Nat.ofDigits_append, Nat.ofDigits_singleton, List.length_reverse,
    ← number, Nat.mul_comm, Nat.add_comm]

theorem evaluate_eq_some_iff {high n : Nat} {cs : List Char} :
    evaluate high cs = some n ↔
      ∃ ds, List.Forall₂ Denotes cs ds ∧ n = high * 32 ^ ds.length + number ds := by
  induction cs generalizing high with
  | nil => simp [evaluate, number, eq_comm]
  | cons c cs ih =>
    constructor
    · intro value
      rw [evaluate] at value
      split at value
      case h_1 => cases value
      case h_2 d first =>
        obtain ⟨ds, rest, rfl⟩ := ih.mp value
        refine ⟨d :: ds, .cons (digitValue?_eq_some_iff.mp first) rest, ?_⟩
        rw [number_cons, List.length_cons]
        ring
    · rintro ⟨_, _ | ⟨first, rest⟩, rfl⟩
      case cons d ds =>
        rw [evaluate, digitValue?_eq_some_iff.mpr first]
        refine ih.mpr ⟨ds, rest, ?_⟩
        rw [number_cons, List.length_cons]
        ring

/-- The characters are the digits of a ULID, and `ds` are the numbers they denote. -/
structure Numeral (cs : List Char) (ds : List Nat) : Prop where
  size : (String.ofList cs).utf8ByteSize = length
  denotes : List.Forall₂ Denotes cs ds

theorem utf8ByteSize_of_denotes {cs : List Char} {ds : List Nat}
    (denotes : List.Forall₂ Denotes cs ds) : (String.ofList cs).utf8ByteSize = ds.length := by
  induction denotes with
  | nil => rfl
  | cons first _ ih =>
    rw [← List.singleton_append, String.ofList_append, String.utf8ByteSize_append, ih,
      ← String.singleton_eq_ofList, String.utf8ByteSize_singleton, first.utf8Size_eq,
      List.length_cons, Nat.add_comm]

namespace Numeral

variable {cs : List Char} {ds : List Nat}

theorem length_eq (h : Numeral cs ds) : ds.length = length :=
  (utf8ByteSize_of_denotes h.denotes).symm.trans h.size

theorem isSpace_eq (h : Numeral cs ds) : ∀ c ∈ cs, Text.isSpace c = false :=
  forall_mem_of_denotes Denotes.isSpace_eq h.denotes

end Numeral

/-- Digits that denote the same numbers are the same characters up to case. -/
theorem eq_iff_map_toUpper {cs bs : List Char} {ds es : List Nat}
    (first : List.Forall₂ Denotes cs ds) (second : List.Forall₂ Denotes bs es) :
    ds = es ↔ cs.map Char.toUpper = bs.map Char.toUpper := by
  induction first generalizing bs es with
  | nil => cases second <;> simp
  | cons head _ ih =>
    cases second with
    | nil => simp
    | cons other rest =>
      rw [List.cons.injEq, List.map_cons, List.map_cons, List.cons.injEq, ih rest,
        head.eq_iff_toUpper other]

theorem denotes_of_map_toUpper {cs bs : List Char} {ds : List Nat}
    (denotes : List.Forall₂ Denotes bs ds) (same : cs.map Char.toUpper = bs.map Char.toUpper) :
    List.Forall₂ Denotes cs ds := by
  induction denotes generalizing cs with
  | nil =>
    rw [List.map_nil, List.map_eq_nil_iff] at same
    exact same ▸ .nil
  | cons head _ ih =>
    obtain ⟨c, rest, rfl, first, others⟩ := List.map_eq_cons_iff.mp same
    exact .cons (denotes_of_toUpper head.1 (first.trans head.toUpper_eq)) (ih others)

/-- A numeral in other letter case is one of the same numbers. -/
theorem Numeral.of_map_toUpper {cs bs : List Char} {ds : List Nat} (numeral : Numeral bs ds)
    (same : cs.map Char.toUpper = bs.map Char.toUpper) : Numeral cs ds := by
  have denotes := denotes_of_map_toUpper numeral.denotes same
  exact ⟨(utf8ByteSize_of_denotes denotes).trans numeral.length_eq, denotes⟩

theorem lt_of_denotes {cs : List Char} {ds : List Nat} (denotes : List.Forall₂ Denotes cs ds) :
    ∀ d ∈ ds, d < 32 :=
  ((List.forall₂_and_left ds cs).mp (denotes.flip.imp fun _ _ h => ⟨h.1, h⟩)).1

theorem number_lt {ds : List Nat} (small : ∀ d ∈ ds, d < 32) : number ds < 32 ^ ds.length := by
  rw [number, ← List.length_reverse]
  exact Nat.ofDigits_lt_base_pow_length (by decide) fun d mem => small d (List.mem_reverse.mp mem)

theorem number_inj {ds es : List Nat} (long : ds.length = es.length) (small : ∀ d ∈ ds, d < 32)
    (small' : ∀ d ∈ es, d < 32) : number ds = number es ↔ ds = es := by
  constructor
  · intro same
    refine List.reverse_inj.mp (Nat.ofDigits_inj_of_len_eq (by decide) ?_ ?_ ?_ same)
    · rw [List.length_reverse, List.length_reverse, long]
    · exact fun d mem => small d (List.mem_reverse.mp mem)
    · exact fun d mem => small' d (List.mem_reverse.mp mem)
  · exact congrArg number

/-- Of the first of 26 digits the three low bits are kept, and of the others all. -/
theorem number_mod_count {d : Nat} {ds : List Nat} (long : ds.length = 25)
    (small : ∀ d ∈ ds, d < 32) :
    number (d :: ds) % count = d % 8 * 32 ^ 25 + number ds := by
  have low : number ds < 32 ^ 25 := long ▸ number_lt small
  have parts : count = 32 ^ 25 * 8 := by decide
  have rest : (d * 32 ^ 25 + number ds) % 32 ^ 25 = number ds := by
    rw [Nat.mul_add_mod_self_right, Nat.mod_eq_of_lt low]
  have first : (d * 32 ^ 25 + number ds) / 32 ^ 25 = d := by
    rw [Nat.mul_comm, Nat.mul_add_div (by decide), Nat.div_eq_of_lt low, Nat.add_zero]
  rw [number_cons, long, parts, Nat.mod_mul, rest, first, Nat.add_comm, Nat.mul_comm]

/-- Two numerals have the same value exactly when they agree up to case after the first digit, and
modulo 8 in it. -/
theorem Numeral.value_eq_iff {c b : Char} {cs bs : List Char} {d e : Nat} {ds es : List Nat}
    (first : Numeral (c :: cs) (d :: ds)) (second : Numeral (b :: bs) (e :: es)) :
    number (d :: ds) % count = number (e :: es) % count ↔
      d % 8 = e % 8 ∧ cs.map Char.toUpper = bs.map Char.toUpper := by
  have long : ds.length = 25 := Nat.succ.inj first.length_eq
  have long' : es.length = 25 := Nat.succ.inj second.length_eq
  obtain ⟨-, rest⟩ := List.forall₂_cons.mp first.denotes
  obtain ⟨-, rest'⟩ := List.forall₂_cons.mp second.denotes
  have small := lt_of_denotes rest
  have small' := lt_of_denotes rest'
  have low : number ds < 32 ^ 25 := long ▸ number_lt small
  have low' : number es < 32 ^ 25 := long' ▸ number_lt small'
  rw [number_mod_count long small, number_mod_count long' small', ← eq_iff_map_toUpper rest rest',
    ← number_inj (long.trans long'.symm) small small']
  constructor
  · intro same
    omega
  · rintro ⟨first, rest⟩
    rw [first, rest]

theorem ofNat_eq_iff {m n : Nat} : ofNat m = ofNat n ↔ m % count = n % count := by
  rw [ofNat, ofNat, mk.injEq]

theorem ofText_eq_ok_iff {s : String} {u : Ulid} :
    ofText s = .ok u ↔ ∃ ds, Numeral s.toList ds ∧ u.value = number ds % count := by
  rw [ofText]
  constructor
  · intro read
    split at read
    case isFalse => cases read
    case isTrue size =>
      split at read
      case h_2 => cases read
      case h_1 n value =>
        obtain ⟨ds, denotes, rfl⟩ := evaluate_eq_some_iff.mp value
        cases read
        refine ⟨ds, ⟨by rwa [String.ofList_toList], denotes⟩, ?_⟩
        rw [Nat.zero_mul, Nat.zero_add, ofNat]
  · rintro ⟨ds, ⟨size, denotes⟩, value⟩
    rw [String.ofList_toList] at size
    have evaluated : evaluate 0 s.toList = some (number ds) :=
      evaluate_eq_some_iff.mpr ⟨ds, denotes, by rw [Nat.zero_mul, Nat.zero_add]⟩
    rw [if_pos size, evaluated]
    exact congrArg Except.ok (ext value.symm)

end LineagePorts.Ulid
