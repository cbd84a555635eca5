import LineagePorts.Text.Blank
import Mathlib.Data.List.TakeWhile

/-!
# White space around a text

Trimming takes away exactly the white space at the two ends, and all of it: a text without white
space inside comes out of whatever white space stands around it. Changing the case of letters changes
no character outside of ASCII, and no white space.
-/

namespace LineagePorts.Text

theorem trimStart_of_no_space {cs : List Char} (none : ∀ c ∈ cs, isSpace c = false) :
    trimStart cs = cs := by
  cases cs with
  | nil => rfl
  | cons c cs => simp [trimStart, none c List.mem_cons_self]

theorem trimEnd_of_no_space {cs : List Char} (none : ∀ c ∈ cs, isSpace c = false) :
    trimEnd cs = cs := by
  induction cs with
  | nil => rfl
  | cons c cs ih =>
    obtain ⟨first, rest⟩ := List.forall_mem_cons.mp none
    rw [trimEnd, ih rest]
    cases cs <;> simp [first]

theorem trim_of_no_space {cs : List Char} (none : ∀ c ∈ cs, isSpace c = false) : trim cs = cs := by
  rw [trim, trimStart_of_no_space none, trimEnd_of_no_space none]

variable {before core after : List Char}

theorem trimEnd_append_of_space (space : ∀ c ∈ after, isSpace c = true) (cs : List Char) :
    trimEnd (cs ++ after) = trimEnd cs := by
  induction cs with
  | nil => exact (trimEnd_eq_nil_iff after).mpr space
  | cons c cs ih => rw [List.cons_append, trimEnd, ih, trimEnd]

/-- Trimming takes away the white space around a text that has none inside. -/
theorem trim_surrounded (spaceBefore : ∀ c ∈ before, isSpace c = true)
    (none : ∀ c ∈ core, isSpace c = false) (spaceAfter : ∀ c ∈ after, isSpace c = true) :
    trim (before ++ (core ++ after)) = core := by
  rw [trim, trimStart, List.dropWhile_append_of_pos spaceBefore, ← trimStart]
  cases core with
  | nil =>
    rw [List.nil_append, (trimStart_eq_nil_iff after).mpr spaceAfter]
    rfl
  | cons c cs =>
    have start : trimStart (c :: cs ++ after) = c :: cs ++ after := by
      simp [trimStart, none c List.mem_cons_self]
    rw [start, trimEnd_append_of_space spaceAfter, trimEnd_of_no_space none]

theorem exists_trimEnd (cs : List Char) :
    ∃ after, cs = trimEnd cs ++ after ∧ ∀ c ∈ after, isSpace c = true := by
  induction cs with
  | nil => exact ⟨[], rfl, by simp⟩
  | cons c cs ih =>
    obtain ⟨after, split, space⟩ := ih
    -- The first character is taken away only when nothing is left of what comes after it.
    cases rest : trimEnd cs with
    | nil =>
      rw [rest, List.nil_append] at split
      by_cases first : isSpace c = true
      · refine ⟨c :: after, ?_, List.forall_mem_cons.mpr ⟨first, space⟩⟩
        rw [trimEnd, rest, split]
        simp [first]
      · refine ⟨after, ?_, space⟩
        rw [trimEnd, rest, split]
        simp [first]
    | cons d ds =>
      refine ⟨after, ?_, space⟩
      rw [trimEnd, rest]
      rw [rest] at split
      exact congrArg (c :: ·) split

/-- What trimming takes away is white space at the two ends. -/
theorem exists_trim (cs : List Char) :
    ∃ before after, cs = before ++ (trim cs ++ after) ∧ (∀ c ∈ before, isSpace c = true) ∧
      ∀ c ∈ after, isSpace c = true := by
  obtain ⟨after, split, spaceAfter⟩ := exists_trimEnd (trimStart cs)
  refine ⟨cs.takeWhile isSpace, after, ?_, fun c mem => List.mem_takeWhile_imp mem, spaceAfter⟩
  rw [trim, ← split, trimStart, List.takeWhile_append_dropWhile]

/-- What is checked of the codes of ASCII holds of every character with such a code. -/
theorem of_ascii {P : Char → Prop} (each : ∀ n < 128, P (Char.ofNat n)) {c : Char}
    (ascii : c.toNat < 128) : P c := by
  have this := each c.toNat ascii
  rwa [Char.ofNat_toNat] at this

theorem ascii_or_toUpper_eq (c : Char) : c.toNat < 128 ∨ c.toUpper = c := by
  by_cases lower : 'a'.val ≤ c.val ∧ c.val ≤ 'z'.val
  · exact .inl (Nat.lt_of_le_of_lt (UInt32.le_iff_toNat_le.mp lower.2) (by decide))
  · exact .inr (dif_neg lower)

theorem ascii_or_toLower_eq (c : Char) : c.toNat < 128 ∨ c.toLower = c := by
  by_cases capital : 'A'.val ≤ c.val ∧ c.val ≤ 'Z'.val
  · exact .inl (Nat.lt_of_le_of_lt (UInt32.le_iff_toNat_le.mp capital.2) (by decide))
  · exact .inr (dif_neg capital)

theorem isSpace_toLower (c : Char) : isSpace c.toLower = isSpace c := by
  rcases ascii_or_toLower_eq c with ascii | same
  · exact of_ascii (P := fun c => isSpace c.toLower = isSpace c) (by decide +kernel) ascii
  · rw [same]

end LineagePorts.Text
