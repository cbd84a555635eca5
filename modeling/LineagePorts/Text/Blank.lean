/-!
# White space and blank text

The white space of Unicode (the property `White_Space`), trimming by it, and the test for a blank
text. A text is blank exactly when trimming leaves nothing of it.
-/

namespace LineagePorts.Text

/-- The characters with the Unicode property `White_Space`. -/
def isSpace (c : Char) : Bool :=
  let n := c.toNat
  (0x9 ≤ n && n ≤ 0xD) || n == 0x20 || n == 0x85 || n == 0xA0 || n == 0x1680 ||
    (0x2000 ≤ n && n ≤ 0x200A) || n == 0x2028 || n == 0x2029 || n == 0x202F || n == 0x205F ||
    n == 0x3000

def trimStart (cs : List Char) : List Char :=
  cs.dropWhile isSpace

def trimEnd : List Char → List Char
  | [] => []
  | c :: cs =>
    match trimEnd cs with
    | [] => if isSpace c then [] else [c]
    | d :: ds => c :: d :: ds

/-- A text without the white space at its two ends. -/
def trim (cs : List Char) : List Char :=
  trimEnd (trimStart cs)

def isBlank (s : String) : Bool :=
  s.toList.all isSpace

theorem trimEnd_eq_nil_iff (cs : List Char) : trimEnd cs = [] ↔ ∀ c ∈ cs, isSpace c = true := by
  induction cs with
  | nil => simp [trimEnd]
  | cons c cs ih =>
    rw [trimEnd]
    cases h : trimEnd cs with
    | nil =>
      have all := ih.mp h
      by_cases hc : isSpace c = true
      · simpa [hc] using all
      · simp [hc]
    | cons d ds =>
      have some_left : ¬ ∀ c ∈ cs, isSpace c = true := fun all => by simp [ih.mpr all] at h
      simp only [reduceCtorEq, List.mem_cons, forall_eq_or_imp, false_iff]
      exact fun both => some_left both.2

theorem trimStart_eq_nil_iff (cs : List Char) :
    trimStart cs = [] ↔ ∀ c ∈ cs, isSpace c = true := by
  induction cs with
  | nil => simp [trimStart]
  | cons c cs ih =>
    by_cases hc : isSpace c = true <;> simp_all [trimStart, List.dropWhile]

theorem isSpace_of_trimStart {cs ds : List Char} {d : Char} (h : trimStart cs = d :: ds) :
    isSpace d = false := by
  induction cs with
  | nil => simp [trimStart] at h
  | cons c cs ih =>
    by_cases hc : isSpace c = true
    · exact ih (by simpa [trimStart, List.dropWhile, hc] using h)
    · simp only [trimStart, List.dropWhile, hc] at h
      rw [← (List.cons.inj h).1]
      simpa using hc

/-- A text is blank exactly when trimming leaves nothing. -/
theorem isBlank_iff_trim (s : String) : isBlank s = true ↔ trim s.toList = [] := by
  rw [isBlank, List.all_eq_true, ← trimStart_eq_nil_iff, trim, trimEnd_eq_nil_iff]
  constructor
  · intro h c hc
    simp [h] at hc
  · intro h
    cases start : trimStart s.toList with
    | nil => rfl
    | cons d ds =>
      have clear := isSpace_of_trimStart start
      have space := h d (by simp [start])
      simp [space] at clear

end LineagePorts.Text
