import LineagePorts.Instant.Text
import LineagePorts.Proofs.Text.Decimal
import Mathlib.Data.List.TakeWhile

/-!
# Reading instants back

Every instant is read back from its text as it was, leap seconds, fractions of any length and years
with a sign included.
-/

namespace LineagePorts

open Text (isDigit ofDecimal padded decimalWidth EndsNumeral)

theorem Text.isSpace_of_isDigit {c : Char} (digit : isDigit c = true) : isSpace c = false := by
  have range : 48 ≤ c.toNat ∧ c.toNat ≤ 57 := by
    simpa [isDigit, Char.le_def, UInt32.le_iff_toNat_le] using digit
  simp only [isSpace, Bool.or_eq_false_iff, Bool.and_eq_false_iff, decide_eq_false_iff_not,
    beq_eq_false_iff_ne]
  omega

/-- There is no white space in front of a numeral. -/
theorem Text.trimStart_numeral {ds : List Char} (digits : ∀ c ∈ ds, isDigit c = true)
    (notEmpty : ds ≠ []) (rest : List Char) : trimStart (ds ++ rest) = ds ++ rest := by
  obtain ⟨d, es, rfl⟩ := List.exists_cons_of_ne_nil notEmpty
  have first := isSpace_of_isDigit (digits d List.mem_cons_self)
  rw [List.cons_append, trimStart, List.dropWhile_cons_of_neg (ne_true_of_eq_false first)]

namespace Instant

theorem scanMark_self {mark : Char} (notBlank : Text.isSpace mark = false) (rest : List Char) :
    scanMark mark (mark :: rest) = some rest := by
  rw [scanMark, Text.trimStart, List.dropWhile_cons_of_neg (ne_true_of_eq_false notBlank)]
  exact if_pos rfl

theorem scanNumeral_padded {width : Nat} (positive : width ≠ 0) (n : Nat) (rest : List Char) :
    scanNumeral width (padded width n ++ rest) = some (n % 10 ^ width, rest) := by
  have cut : (padded width n ++ rest).take width = padded width n := by
    rw [List.take_append_of_le_length (Nat.le_of_eq (Text.length_padded width n).symm),
      List.take_of_length_le (Nat.le_of_eq (Text.length_padded width n))]
  have whole : (padded width n).takeWhile isDigit = padded width n := by
    rw [List.takeWhile_eq_self_iff]
    exact fun c mem => Text.isDigit_of_mem_padded mem
  have notEmpty : (padded width n).isEmpty = false := by
    rw [List.isEmpty_eq_false_iff, ← List.length_pos_iff, Text.length_padded]
    omega
  have rest_eq : (padded width n ++ rest).drop (padded width n).length = rest := List.drop_left
  rw [scanNumeral, cut, whole, notEmpty, Text.ofDecimal_padded, rest_eq]
  rfl

theorem scanSpacedNumeral_padded {width : Nat} (positive : width ≠ 0) (n : Nat)
    (rest : List Char) :
    scanSpacedNumeral width (padded width n ++ rest) = some (n % 10 ^ width, rest) := by
  have notEmpty : padded width n ≠ [] := by
    rw [← List.length_pos_iff, Text.length_padded]
    omega
  rw [scanSpacedNumeral, Text.trimStart_numeral (fun c mem => Text.isDigit_of_mem_padded mem)
    notEmpty, scanNumeral_padded positive]

/-- A numeral behind a sign may have any number of digits. -/
theorem scanNumeral_decimalWidth (n : Nat) {rest : List Char} (ends : EndsNumeral rest) :
    scanNumeral (decimalWidth 4 n ++ rest).length (decimalWidth 4 n ++ rest) = some (n, rest) := by
  have digits : ∀ c ∈ decimalWidth 4 n, isDigit c = true :=
    fun c mem => Text.isDigit_of_mem_decimalWidth mem
  have notEmpty : (decimalWidth 4 n).isEmpty = false :=
    List.isEmpty_eq_false_iff.mpr (Text.decimalWidth_ne_nil 4 n)
  rw [scanNumeral, List.take_length, Text.takeWhile_isDigit digits ends, notEmpty,
    Text.ofDecimal_decimalWidth, List.drop_left]
  rfl

theorem scanYear_writeYear (year : Int) {rest : List Char} (ends : EndsNumeral rest) :
    scanYear (writeYear year ++ rest) = some (year, rest) := by
  rw [writeYear]
  split
  · rename_i short
    have digits : ∀ c ∈ padded 4 year.toNat, isDigit c = true :=
      fun c mem => Text.isDigit_of_mem_padded mem
    have notEmpty : padded 4 year.toNat ≠ [] := by
      rw [← List.length_pos_iff, Text.length_padded]
      omega
    have value : ((year.toNat % 10 ^ 4 : Nat) : Int) = year := by omega
    have noSign (sign : Char) (no : isDigit sign = false) (r : List Char) :
        padded 4 year.toNat ++ rest ≠ sign :: r := by
      obtain ⟨d, ds, split⟩ := List.exists_cons_of_ne_nil notEmpty
      rw [split] at digits ⊢
      intro same
      exact Text.ne_of_isDigit (digits d List.mem_cons_self) no (List.cons.inj same).1
    rw [scanYear, Text.trimStart_numeral digits notEmpty]
    split
    · rename_i r same
      exact absurd same (noSign '-' rfl r)
    · rename_i r same
      exact absurd same (noSign '+' rfl r)
    · rw [scanNumeral_padded (by decide), Option.map_some]
      dsimp only
      rw [value]
  · rename_i long
    by_cases negative : year < 0
    · have value : (-(year.natAbs : Int)) = year := by omega
      have read := scanNumeral_decimalWidth year.natAbs ends
      rw [if_pos negative, scanYear, List.cons_append]
      show (scanNumeral (decimalWidth 4 year.natAbs ++ rest).length
        (decimalWidth 4 year.natAbs ++ rest)).map _ = _
      rw [read, Option.map_some]
      dsimp only
      rw [value]
    · have value : (year.natAbs : Int) = year := by omega
      have read := scanNumeral_decimalWidth year.natAbs ends
      rw [if_neg negative, scanYear, List.cons_append]
      show (scanNumeral (decimalWidth 4 year.natAbs ++ rest).length
        (decimalWidth 4 year.natAbs ++ rest)).map _ = _
      rw [read, Option.map_some]
      dsimp only
      rw [value]

/-- The digits that a fraction lacks count as zeros. -/
theorem scanFraction_padded {width : Nat} (positive : width ≠ 0) (short : width ≤ 9) (n : Nat) :
    scanFraction ('.' :: padded width n ++ ['Z']) =
      some (n % 10 ^ width * 10 ^ (9 - width), ['Z']) := by
  have digits : ∀ c ∈ padded width n, isDigit c = true :=
    fun c mem => Text.isDigit_of_mem_padded mem
  have ends : EndsNumeral ['Z'] := by
    rintro c ⟨⟩
    rfl
  have notEmpty : (padded width n).isEmpty = false := by
    rw [List.isEmpty_eq_false_iff, ← List.length_pos_iff, Text.length_padded]
    omega
  have cut : (padded width n).take 9 = padded width n :=
    List.take_of_length_le (by rw [Text.length_padded]; exact short)
  have value : ofDecimal ((padded width n).rightpad 9 '0') = n % 10 ^ width * 10 ^ (9 - width) := by
    rw [List.rightpad, Text.ofDecimal_append, Text.ofDecimal_replicate_zero, Text.ofDecimal_padded,
      List.length_replicate, Text.length_padded, Nat.add_zero]
  rw [List.cons_append, scanFraction, Text.takeWhile_isDigit digits ends, notEmpty, cut, value,
    List.drop_left]
  rfl

theorem scanFraction_writeFraction {nano : Nat} (small : nano < 1000000000) :
    scanFraction (writeFraction nano ++ ['Z']) = some (nano, ['Z']) := by
  rw [writeFraction]
  split_ifs with whole milli micro
  · rw [whole]
    rfl
  · rw [scanFraction_padded (by decide) (by decide)]
    congr 2
    omega
  · rw [scanFraction_padded (by decide) (by decide)]
    congr 2
    omega
  · rw [scanFraction_padded (by decide) (by decide)]
    congr 2
    omega

theorem scanDate_write (date : Date) (rest : List Char) :
    scanDate (writeYear date.year ++ '-' :: (padded 2 date.month ++ '-' ::
      (padded 2 date.day ++ rest))) = some (date, rest) := by
  have valid := date.valid
  have month : date.month % 10 ^ 2 = date.month := by
    simp only [Calendar.isDate, Bool.and_eq_true, decide_eq_true_eq] at valid
    omega
  have day : date.day % 10 ^ 2 = date.day := by
    have atMost : Calendar.daysInMonth date.year date.month ≤ 31 := by
      rw [Calendar.daysInMonth]
      split_ifs <;> decide
    simp only [Calendar.isDate, Bool.and_eq_true, decide_eq_true_eq] at valid
    omega
  have ends (cs : List Char) : EndsNumeral ('-' :: cs) := by
    rintro c ⟨⟩
    rfl
  have same : Date.of? date.year date.month date.day = some date := dif_pos valid
  rw [scanDate, scanYear_writeYear date.year (ends _)]
  simp only [Option.bind_eq_bind, Option.bind_some]
  rw [scanMark_self rfl]
  simp only [Option.bind_some]
  rw [scanSpacedNumeral_padded (by decide)]
  simp only [Option.bind_some]
  rw [scanMark_self rfl]
  simp only [Option.bind_some]
  rw [scanSpacedNumeral_padded (by decide)]
  simp only [Option.bind_some, month, day, same, Option.pure_def]

theorem scanTime_write {second nano : Nat} (valid : Calendar.isTimeOfDay second nano = true) :
    scanTime (padded 2 (second / 3600) ++ ':' :: (padded 2 (second / 60 % 60) ++ ':' ::
      (padded 2 (second % 60 + if 1000000000 ≤ nano then 1 else 0) ++
        (writeFraction (if 1000000000 ≤ nano then nano - 1000000000 else nano) ++ ['Z'])))) =
      some ((second, nano), ['Z']) := by
  simp only [Calendar.isTimeOfDay, Bool.and_eq_true, Bool.or_eq_true, decide_eq_true_eq] at valid
  have hour : second / 3600 % 10 ^ 2 = second / 3600 := by omega
  have minute : second / 60 % 60 % 10 ^ 2 = second / 60 % 60 := by omega
  rw [scanTime, scanSpacedNumeral_padded (by decide)]
  simp only [Option.bind_eq_bind, Option.bind_some]
  rw [scanMark_self rfl]
  simp only [Option.bind_some]
  rw [scanSpacedNumeral_padded (by decide)]
  simp only [Option.bind_some]
  rw [scanMark_self rfl]
  simp only [Option.bind_some]
  rw [scanSpacedNumeral_padded (by decide)]
  simp only [Option.bind_some, hour, minute]
  by_cases leap : 1000000000 ≤ nano
  · have sixty : (second % 60 + 1) % 10 ^ 2 = 60 := by omega
    have inRange : (second / 3600 < 24 && second / 60 % 60 < 60 && decide (60 ≤ 60)) = true := by
      simp only [Bool.and_eq_true, decide_eq_true_eq]
      omega
    rw [if_pos leap, if_pos leap, scanFraction_writeFraction (by omega), sixty]
    simp only [Option.bind_some, inRange, if_true]
    congr 3 <;> omega
  · have notSixty : (second % 60 + 0) % 10 ^ 2 = second % 60 := by omega
    have inRange : (second / 3600 < 24 && second / 60 % 60 < 60 && second % 60 ≤ 60) = true := by
      simp only [Bool.and_eq_true, decide_eq_true_eq]
      omega
    have noLeap : second % 60 ≠ 60 := by omega
    rw [if_neg leap, if_neg leap, scanFraction_writeFraction (by omega), notSixty]
    simp only [Option.bind_some, inRange, if_true, noLeap, if_false]
    congr 3
    omega

theorem atOffset?_zero (t : Instant) : atOffset? t.date t.second t.nano 0 = some t := by
  have valid := t.valid
  have inDay : (t.second : Int) < 86400 := by
    simp only [Calendar.isTimeOfDay, Bool.and_eq_true, decide_eq_true_eq] at valid
    omega
  have notBefore : ¬ (t.second : Int) < 0 := by omega
  have same : of? t.date t.second t.nano = some t := dif_pos valid
  simp [atOffset?, notBefore, inDay, same]

/-- A date, the separator, a time and an offset make an instant. -/
theorem ofText?_of_scans {s : String} {date : Date} {second nano : Nat} {offset : Int}
    {cs rest rest' : List Char} (readsDate : scanDate s.toList = some (date, 'T' :: cs))
    (readsTime : scanTime cs = some ((second, nano), rest))
    (readsOffset : scanOffset (Text.trimStart rest) = some (offset, rest'))
    (nothingLeft : Text.trimStart rest' = []) :
    ofText? s = atOffset? date second nano offset := by
  simp [ofText?, readsDate, readsTime, readsOffset, nothingLeft]

theorem ofText?_text (t : Instant) : ofText? t.text = some t := by
  have written : t.write = writeYear t.date.year ++ '-' :: (padded 2 t.date.month ++ '-' ::
      (padded 2 t.date.day ++ ('T' :: (padded 2 (t.second / 3600) ++ ':' ::
        (padded 2 (t.second / 60 % 60) ++ ':' ::
          (padded 2 (t.second % 60 + if 1000000000 ≤ t.nano then 1 else 0) ++
            (writeFraction (if 1000000000 ≤ t.nano then t.nano - 1000000000 else t.nano) ++
              ['Z']))))))) := by
    simp [write]
  have readsDate := scanDate_write t.date ('T' :: (padded 2 (t.second / 3600) ++ ':' ::
    (padded 2 (t.second / 60 % 60) ++ ':' ::
      (padded 2 (t.second % 60 + if 1000000000 ≤ t.nano then 1 else 0) ++
        (writeFraction (if 1000000000 ≤ t.nano then t.nano - 1000000000 else t.nano) ++ ['Z'])))))
  rw [← written, ← String.toList_ofList (l := t.write)] at readsDate
  exact (ofText?_of_scans readsDate (scanTime_write t.valid) rfl rfl).trans (atOffset?_zero t)

end Instant

end LineagePorts
