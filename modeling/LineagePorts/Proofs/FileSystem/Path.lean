import LineagePorts.FileSystem.Path
import Mathlib.Data.List.TakeWhile

/-!
# Paths that differ in their last name

A path that ends in a name has the parts of what stands in front and that name, whatever slashes and
single dots follow. With another extension it has another last part behind the same ones.
-/

namespace LineagePorts.Path

/-- The part that a path begins with besides its names. -/
def leading : List Char → List Part
  | '/' :: _ => [.root]
  | ['.'] => [.here]
  | '.' :: '/' :: _ => [.here]
  | _ => []

theorem parts_eq (path : String) :
    parts path = leading path.toList ++ (pieces path.toList).filterMap part? := rfl

theorem pieces_ne_nil (cs : List Char) : pieces cs ≠ [] := by
  cases cs with
  | nil => exact List.cons_ne_nil _ _
  | cons c cs =>
    rw [pieces]
    split
    · exact List.cons_ne_nil _ _
    · split <;> exact List.cons_ne_nil _ _

theorem pieces_append_slash (as bs : List Char) :
    pieces (as ++ '/' :: bs) = pieces as ++ pieces bs := by
  induction as with
  | nil =>
    rw [List.nil_append, pieces]
    cases rest : pieces bs with
    | nil => exact absurd rest (pieces_ne_nil bs)
    | cons p ps => simp [pieces, rest]
  | cons c as ih =>
    rw [List.cons_append, pieces, ih, pieces]
    cases first : pieces as with
    | nil => exact absurd first (pieces_ne_nil as)
    | cons p ps =>
      simp only [List.cons_append]
      split <;> rfl

theorem pieces_name {name : List Char} (plain : '/' ∉ name) : pieces name = [name] := by
  induction name with
  | nil => rfl
  | cons c cs ih =>
    have other : c ≠ '/' := fun same => plain (same ▸ List.mem_cons_self)
    rw [pieces, ih fun mem => plain (List.mem_cons_of_mem _ mem)]
    exact if_neg other

/-- The end that is dropped from a path adds no part to it. -/
theorem dropTail_spec (cs : List Char) :
    dropTail cs = ['/'] ∨ ∃ tail, cs = tail ++ dropTail cs ∧ ∀ front,
      (pieces (front ++ tail.reverse)).filterMap part? = (pieces front).filterMap part? := by
  fun_induction dropTail cs with
  | case1 cs empty => exact .inl rfl
  | case2 cs more ih =>
    rcases ih with root | ⟨tail, split, idle⟩
    · exact .inl root
    · refine .inr ⟨'/' :: tail, by rw [List.cons_append, ← split], fun front => ?_⟩
      rw [List.reverse_cons, ← List.append_assoc, pieces_append_slash, List.filterMap_append,
        idle front]
      exact List.append_nil _
  | case3 cs empty => exact .inl rfl
  | case4 cs more ih =>
    rcases ih with root | ⟨tail, split, idle⟩
    · exact .inl root
    · refine .inr ⟨'.' :: '/' :: tail, by rw [List.cons_append, List.cons_append, ← split],
        fun front => ?_⟩
      rw [List.reverse_cons, List.reverse_cons, List.append_assoc, ← List.append_assoc,
        List.singleton_append, pieces_append_slash, List.filterMap_append, idle front]
      exact List.append_nil _
  | case5 cs => exact .inr ⟨[], rfl, fun front => by rw [List.reverse_nil, List.append_nil]⟩

/-- What a path may end in: a text without slashes that is neither empty nor a single dot. -/
structure IsLast (name : List Char) : Prop where
  plain : '/' ∉ name
  nonempty : name ≠ []
  notDot : name ≠ ['.']

/-- Nothing stands in front of a name, or something that ends in a slash. -/
def IsFront (front : List Char) : Prop := front = [] ∨ ∃ before, front = before ++ ['/']

theorem leading_cons_cons (c d : Char) (cs ds : List Char) :
    leading (c :: d :: cs) = leading (c :: d :: ds) := by
  by_cases root : c = '/'
  · subst root
    rfl
  · by_cases dot : c = '.'
    · subst dot
      by_cases here : d = '/'
      · subst here
        rfl
      · simp [leading, here]
    · simp [leading, root, dot]

theorem leading_name {name : List Char} (last : IsLast name) (tail : List Char) :
    leading (name ++ tail) = [] := by
  obtain ⟨plain, nonempty, notDot⟩ := last
  cases name with
  | nil => exact absurd rfl nonempty
  | cons c cs =>
    have root : c ≠ '/' := fun same => plain (same ▸ List.mem_cons_self)
    by_cases dot : c = '.'
    · subst dot
      cases cs with
      | nil => exact absurd rfl notDot
      | cons d ds =>
        have here : d ≠ '/' := fun same =>
          plain (same ▸ List.mem_cons_of_mem _ List.mem_cons_self)
        simp [leading, here]
    · simp [leading, root, dot]

/-- What a path begins with is told by what stands in front of its last name. -/
theorem leading_front {front : List Char} (isFront : IsFront front) {name : List Char}
    (last : IsLast name) (tail : List Char) :
    leading (front ++ (name ++ tail)) = leading front := by
  rcases isFront with rfl | ⟨before, rfl⟩
  · exact leading_name last tail
  · cases before with
    | nil => rfl
    | cons c before =>
      cases before with
      | nil => exact leading_cons_cons c '/' _ _
      | cons d before => exact leading_cons_cons c d _ _

/-- The parts of what stands in front of the last name of a path. -/
def frontParts (front : List Char) : List Part :=
  leading front ++ (pieces front).filterMap part?

theorem filterMap_pieces_front {front : List Char} (isFront : IsFront front) {name : List Char}
    (last : IsLast name) :
    (pieces (front ++ name)).filterMap part? =
      (pieces front).filterMap part? ++ (part? name).toList := by
  have single : [name].filterMap part? = (part? name).toList := by
    cases found : part? name <;> simp [found]
  rcases isFront with rfl | ⟨before, rfl⟩
  · rw [List.nil_append, pieces_name last.plain]
    exact single
  · have whole : before ++ ['/'] ++ name = before ++ '/' :: name := List.append_assoc ..
    have empty : (pieces []).filterMap part? = [] := rfl
    rw [whole, pieces_append_slash, pieces_append_slash, pieces_name last.plain,
      List.filterMap_append, List.filterMap_append, empty, List.append_nil, single]

theorem isFront_reverse_dropWhile (cs : List Char) :
    IsFront (cs.dropWhile fun c => !isSlash c).reverse := by
  induction cs with
  | nil => exact .inl rfl
  | cons c cs ih =>
    rw [List.dropWhile_cons]
    by_cases slash : c = '/'
    · refine .inr ⟨cs.reverse, ?_⟩
      simp [slash, isSlash]
    · simpa [slash, isSlash] using ih

theorem splitName?_spec {path : String} {front name : List Char}
    (split : splitName? path = some (front, name)) :
    IsFront front ∧ IsLast name ∧ name ≠ ['.', '.'] ∧ ∃ tail,
      path.toList = front ++ (name ++ tail) ∧
      (pieces path.toList).filterMap part? = (pieces (front ++ name)).filterMap part? := by
  rw [splitName?] at split
  generalize kept : dropTail path.toList.reverse = cs at split
  split at split
  · cases split
  · rename_i isName
    obtain ⟨rfl, rfl⟩ := Prod.mk.inj (Option.some.inj split)
    simp only [Bool.or_eq_true, decide_eq_true_eq, not_or] at isName
    have whole : (cs.dropWhile fun c => !isSlash c).reverse ++
        (cs.takeWhile fun c => !isSlash c).reverse = cs.reverse := by
      rw [← List.reverse_append, List.takeWhile_append_dropWhile]
    have plain : '/' ∉ (cs.takeWhile fun c => !isSlash c).reverse := by
      intro mem
      have notSlash := List.mem_takeWhile_imp (List.mem_reverse.mp mem)
      exact absurd notSlash (by decide)
    refine ⟨isFront_reverse_dropWhile cs, ⟨plain, isName.1.1, isName.1.2⟩, isName.2, ?_⟩
    rcases dropTail_spec path.toList.reverse with root | ⟨tail, parted, idle⟩
    · rw [kept] at root
      subst root
      exact absurd rfl isName.1.1
    · have path_eq : path.toList = cs.reverse ++ tail.reverse := by
        rw [← List.reverse_append, ← kept, ← parted, List.reverse_reverse]
      refine ⟨tail.reverse, ?_, ?_⟩
      · rw [← List.append_assoc, whole, path_eq]
      · rw [whole, path_eq, idle]

theorem part?_last {name : List Char} (last : IsLast name) :
    part? name = some .up ∨ part? name = some (.name (String.ofList name)) := by
  have notDropped : (name = [] || name = ['.']) = false := by
    simp [last.nonempty, last.notDot]
  rw [part?, notDropped]
  by_cases up : name = ['.', '.']
  · exact .inl (if_pos up)
  · exact .inr (if_neg up)

theorem part?_name {name : List Char} (last : IsLast name) (notUp : name ≠ ['.', '.']) :
    part? name = some (.name (String.ofList name)) := by
  rcases part?_last last with up | found
  · rw [part?] at up
    simp [last.nonempty, last.notDot, notUp] at up
  · exact found

/-- A path that ends in a name has that name as its last part, and behind the same parts stands
any other name that takes its place. -/
theorem parts_of_splitName? {path : String} {front name : List Char}
    (split : splitName? path = some (front, name)) :
    parts path = frontParts front ++ [.name (String.ofList name)] ∧
      ∀ {other}, IsLast other →
        parts (String.ofList (front ++ other)) = frontParts front ++ (part? other).toList := by
  obtain ⟨isFront, last, notUp, tail, path_eq, idle⟩ := splitName?_spec split
  constructor
  · rw [parts_eq, idle, filterMap_pieces_front isFront last, path_eq, leading_front isFront last,
      part?_name last notUp, frontParts, List.append_assoc]
    rfl
  · intro other lastOther
    have start := leading_front isFront lastOther []
    rw [List.append_nil] at start
    rw [parts_eq, String.toList_ofList, filterMap_pieces_front isFront lastOther, start, frontParts,
      List.append_assoc]

theorem stem_append_dot {start last : List Char} (nonempty : start ≠ []) (plain : '.' ∉ last) :
    stem (start ++ '.' :: last) = start := by
  have skipped : ∀ c ∈ last.reverse, decide (c ≠ '.') = true := by
    intro c mem
    exact decide_eq_true fun same => plain (same ▸ List.mem_reverse.mp mem)
  have rest : (start ++ '.' :: last).reverse.dropWhile (fun c => c ≠ '.') =
      '.' :: start.reverse := by
    rw [List.reverse_append, List.reverse_cons, List.append_assoc,
      List.dropWhile_append_of_pos skipped]
    rfl
  rw [stem, rest]
  cases back : start.reverse with
  | nil => exact absurd (List.reverse_eq_nil_iff.mp back) nonempty
  | cons c cs =>
    show (c :: cs).reverse = start
    rw [← back, List.reverse_reverse]

theorem mem_of_mem_stem {name : List Char} {c : Char} (mem : c ∈ stem name) : c ∈ name := by
  rw [stem] at mem
  split at mem
  · exact mem
  · exact mem
  · rename_i before parted
    have kept : c ∈ name.reverse.dropWhile (fun c => c ≠ '.') := by
      rw [parted]
      exact List.mem_cons_of_mem _ (List.mem_reverse.mp mem)
    exact List.mem_reverse.mp ((List.dropWhile_sublist _).subset kept)

theorem isLast_extended {name extension : List Char} (plain : '/' ∉ name)
    (plainExtension : '/' ∉ extension) (nonempty : extension ≠ []) :
    IsLast (stem name ++ '.' :: extension) where
  plain mem := by
    rcases List.mem_append.mp mem with inStem | inRest
    · exact plain (mem_of_mem_stem inStem)
    · rcases List.mem_cons.mp inRest with dot | inExtension
      · exact absurd dot (by decide)
      · exact plainExtension inExtension
  nonempty := by simp
  notDot same := by
    have short := congrArg List.length same
    have long := List.length_pos_iff.mpr nonempty
    simp only [List.length_append, List.length_cons, List.length_nil] at short
    omega

/-- An extension with a dot inside changes every name. -/
theorem extended_ne (name : List Char) {first last : List Char} (plain : '.' ∉ last) :
    stem name ++ '.' :: (first ++ '.' :: last) ≠ name := by
  intro same
  have regrouped : (stem name ++ '.' :: first) ++ '.' :: last = name := by
    rw [List.append_assoc]
    exact same
  have nonempty : stem name ++ '.' :: first ≠ [] := by simp
  have kept := stem_append_dot nonempty plain
  rw [regrouped] at kept
  have longer := congrArg List.length kept
  simp only [List.length_append, List.length_cons] at longer
  omega

end LineagePorts.Path
