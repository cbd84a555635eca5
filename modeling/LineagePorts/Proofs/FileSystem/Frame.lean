import LineagePorts.FileSystem.Basic
import LineagePorts.Proofs.Except
import LineagePorts.Proofs.FileSystem.Path
import LineagePorts.Table.Lemmas

/-!
# What writing a file leaves alone

Writing, renaming and removing files makes and removes no directory, so that a path leads where it
led before. Two paths that differ only in the last name lead to different places, and what is done
to the file at one of them is not seen through the other.
-/

namespace LineagePorts.FileSystem

open LineagePorts.Path (Part)

variable {a b c fs : FileSystem}

theorem node?_putNode (fs : FileSystem) (loc l : Location) (n : Node) :
    (fs.putNode loc n).node? l =
      if l = [] then some .directory else if loc = l then some n else fs.node? l := by
  by_cases top : l = []
  · rw [node?, if_pos top, if_pos top]
  · rw [node?, if_neg top, if_neg top, node?, if_neg top, putNode, Table.get?_insert]

/-- The two differ at most in the file at one place. -/
structure SameBut (loc : Location) (a b : FileSystem) : Prop where
  current : a.current = b.current
  directories : ∀ l, a.node? l = some .directory ↔ b.node? l = some .directory
  elsewhere : ∀ l, l ≠ loc → a.node? l = b.node? l

theorem SameBut.symm {loc : Location} (same : SameBut loc a b) : SameBut loc b a where
  current := same.current.symm
  directories l := (same.directories l).symm
  elsewhere l other := (same.elsewhere l other).symm

theorem SameBut.trans {loc : Location} (first : SameBut loc a b) (second : SameBut loc b c) :
    SameBut loc a c where
  current := first.current.trans second.current
  directories l := (first.directories l).trans (second.directories l)
  elsewhere l other := (first.elsewhere l other).trans (second.elsewhere l other)

theorem ne_nil_of_node? {loc : Location} (free : fs.node? loc ≠ some .directory) : loc ≠ [] := by
  rintro rfl
  exact free rfl

theorem sameBut_putFile {loc : Location} (free : fs.node? loc ≠ some .directory) (text : String) :
    SameBut loc fs (fs.putNode loc (.file text)) where
  current := rfl
  directories l := by
    rw [node?_putNode]
    by_cases top : l = []
    · rw [if_pos top, top]
      exact iff_of_true rfl rfl
    · rw [if_neg top]
      by_cases same : loc = l
      · rw [if_pos same, ← same]
        exact iff_of_false free (by simp)
      · rw [if_neg same]
  elsewhere l other := by
    rw [node?_putNode]
    by_cases top : l = []
    · rw [if_pos top, top]
      rfl
    · rw [if_neg top, if_neg other.symm]

theorem sameBut_erase {loc : Location} (free : fs.node? loc ≠ some .directory) :
    SameBut loc fs { fs with nodes := fs.nodes.erase loc } := by
  have erased : ∀ l, ({ fs with nodes := fs.nodes.erase loc } : FileSystem).node? l =
      if l = loc then none else fs.node? l := by
    intro l
    by_cases top : l = []
    · subst top
      rw [if_neg (ne_nil_of_node? free).symm]
      rfl
    · rw [node?, if_neg top, node?, if_neg top, Table.get?_erase]
  refine ⟨rfl, fun l => ?_, fun l other => ?_⟩
  · rw [erased]
    by_cases same : l = loc
    · rw [if_pos same, same]
      exact iff_of_false free (by simp)
    · rw [if_neg same]
  · rw [erased, if_neg other]

/-- Where one part of a path leads from a place, which must be a directory. -/
def next (fs : FileSystem) (loc : Location) (part : Part) : Except Trouble Location :=
  match fs.node? loc with
  | none => .error .missing
  | some (.file _) => .error .notDirectory
  | some .directory =>
    match part with
    | .root => .ok []
    | .here => .ok loc
    | .up => .ok loc.dropLast
    | .name s => if isName s then .ok (loc ++ [s]) else .error .nameTooLong

theorem walk_nil (fs : FileSystem) (loc : Location) : fs.walk loc [] = .ok loc := by
  rw [walk.eq_def]

theorem walk_cons (fs : FileSystem) (loc : Location) (part : Part) (ps : List Part) :
    fs.walk loc (part :: ps) = fs.next loc part >>= fun l => fs.walk l ps := by
  rw [walk.eq_def, next.eq_def]
  cases fs.node? loc with
  | none => rfl
  | some n =>
    cases n with
    | file text => rfl
    | directory =>
      cases part with
      | root => rfl
      | here => rfl
      | up => rfl
      | name s =>
        dsimp only
        split <;> rfl

theorem walk_single (fs : FileSystem) (loc : Location) (part : Part) :
    fs.walk loc [part] = fs.next loc part := by
  rw [walk_cons]
  cases fs.next loc part with
  | error e => rfl
  | ok l => exact fs.walk_nil l

theorem walk_append (fs : FileSystem) (loc : Location) (ps qs : List Part) :
    fs.walk loc (ps ++ qs) = fs.walk loc ps >>= fun l => fs.walk l qs := by
  induction ps generalizing loc with
  | nil => rw [walk_nil]; rfl
  | cons part ps ih =>
    rw [List.cons_append, walk_cons, walk_cons]
    cases fs.next loc part with
    | error e => rfl
    | ok l => exact ih l

theorem next_of_directory {loc : Location} (directory : fs.node? loc = some .directory)
    (s : String) :
    fs.next loc (.name s) = if isName s then .ok (loc ++ [s]) else .error .nameTooLong := by
  rw [next.eq_def, directory]

theorem directory_of_next {loc l : Location} {part : Part} (stepped : fs.next loc part = .ok l) :
    fs.node? loc = some .directory := by
  rw [next.eq_def] at stepped
  split at stepped
  · cases stepped
  · cases stepped
  · assumption

theorem SameBut.next {loc start l : Location} {part : Part} (same : SameBut loc a b)
    (stepped : a.next start part = .ok l) : b.next start part = .ok l := by
  have here := directory_of_next stepped
  rw [next.eq_def, here] at stepped
  rw [next.eq_def, (same.directories start).mp here]
  exact stepped

theorem SameBut.walk {loc start l : Location} {ps : List Part} (same : SameBut loc a b)
    (walked : a.walk start ps = .ok l) : b.walk start ps = .ok l := by
  induction ps generalizing start with
  | nil => rw [walk_nil] at walked ⊢; exact walked
  | cons part ps ih =>
    rw [walk_cons, Except.bind_eq_ok_iff] at walked ⊢
    obtain ⟨between, stepped, walked⟩ := walked
    exact ⟨between, same.next stepped, ih walked⟩

/-- What is asked of a path before it is followed. -/
def checkPath (path : String) : Except Trouble Unit :=
  if path.toList.contains '\x00' then .error .nulInPath
  else if path.isEmpty then .error .missing
  else if longestPath < path.utf8ByteSize then .error .nameTooLong
  else .ok ()

theorem locate_eq (fs : FileSystem) (path : String) :
    fs.locate path = checkPath path >>= fun _ => fs.walk fs.current (Path.parts path) := by
  rw [locate, checkPath]
  split
  · rfl
  · split
    · rfl
    · split <;> rfl

theorem locate_eq_ok_iff {path : String} {loc : Location} :
    fs.locate path = .ok loc ↔
      checkPath path = .ok () ∧ fs.walk fs.current (Path.parts path) = .ok loc := by
  rw [locate_eq, Except.bind_eq_ok_iff]
  constructor
  · rintro ⟨_, checked, walked⟩
    exact ⟨checked, walked⟩
  · rintro ⟨checked, walked⟩
    exact ⟨(), checked, walked⟩

theorem SameBut.locate {loc l : Location} {path : String} (same : SameBut loc a b)
    (located : a.locate path = .ok l) : b.locate path = .ok l := by
  obtain ⟨checked, walked⟩ := locate_eq_ok_iff.mp located
  refine locate_eq_ok_iff.mpr ⟨checked, ?_⟩
  rw [← same.current]
  exact same.walk walked

/-- A file may be put under a path that leads somewhere, unless a directory is there or the path
asks for one. -/
theorem fileLocation_eq_ok_iff {path : String} {loc : Location} :
    fs.fileLocation path = .ok loc ↔ fs.locate path = .ok loc ∧
      fs.node? loc ≠ some .directory ∧ Path.namesDirectory path = false := by
  rw [fileLocation]
  cases fs.locate path with
  | error e =>
    constructor
    · intro placed
      cases placed
    · rintro ⟨located, _⟩
      cases located
  | ok l =>
    dsimp only [bind, Except.bind]
    split
    · rename_i refused
      constructor
      · intro placed
        cases placed
      · rintro ⟨located, free, noDirectory⟩
        obtain rfl := Except.ok.inj located
        simp [free, noDirectory] at refused
    · rename_i taken
      simp only [Bool.or_eq_true, decide_eq_true_eq, not_or, Bool.not_eq_true] at taken
      constructor
      · intro placed
        obtain rfl := Except.ok.inj placed
        exact ⟨rfl, taken⟩
      · rintro ⟨located, _⟩
        exact located

/-- A file may be renamed to a path exactly if it may be written there. -/
theorem renameLocation_eq_ok_iff {path : String} {loc : Location} :
    fs.renameLocation path = .ok loc ↔ fs.fileLocation path = .ok loc := by
  rw [fileLocation_eq_ok_iff, renameLocation]
  cases fs.locate path with
  | error e =>
    constructor
    · intro placed
      cases placed
    · rintro ⟨located, _⟩
      cases located
  | ok l =>
    dsimp only [bind, Except.bind]
    split
    · rename_i asks
      constructor
      · intro placed
        cases placed
      · rintro ⟨_, _, noDirectory⟩
        rw [noDirectory] at asks
        cases asks
    · rename_i noDirectory
      split
      · rename_i directory
        constructor
        · intro placed
          cases placed
        · rintro ⟨located, free, _⟩
          obtain rfl := Except.ok.inj located
          exact absurd directory free
      · rename_i free
        constructor
        · intro placed
          obtain rfl := Except.ok.inj placed
          exact ⟨rfl, free, Bool.not_eq_true _ ▸ noDirectory⟩
        · rintro ⟨located, _⟩
          exact located

theorem SameBut.fileLocation {loc l : Location} {path : String} (same : SameBut loc a b)
    (placed : a.fileLocation path = .ok l) : b.fileLocation path = .ok l := by
  obtain ⟨located, free, noDirectory⟩ := fileLocation_eq_ok_iff.mp placed
  refine fileLocation_eq_ok_iff.mpr ⟨same.locate located, ?_, noDirectory⟩
  exact fun directory => free ((same.directories l).mpr directory)

theorem writeFile_eq {path : String} {loc : Location} (placed : fs.fileLocation path = .ok loc)
    (text : String) : fs.writeFile path text = .ok (fs.putNode loc (.file text)) := by
  rw [writeFile, placed]
  rfl

theorem writeFile_eq_error {path : String} (refused : ¬ ∃ loc, fs.fileLocation path = .ok loc)
    (text : String) : ∃ e, fs.writeFile path text = .error e := by
  cases placed : fs.fileLocation path with
  | ok loc => exact absurd ⟨loc, placed⟩ refused
  | error e =>
    refine ⟨e, ?_⟩
    rw [writeFile, placed]
    rfl

theorem sameBut_removeFile {path : String} {loc : Location}
    (placed : fs.fileLocation path = .ok loc) : SameBut loc fs (fs.removeFile path) := by
  obtain ⟨_, free, _⟩ := fileLocation_eq_ok_iff.mp placed
  rw [removeFile, placed]
  exact sameBut_erase free

theorem read_of_file {path text : String} {loc : Location} (located : fs.locate path = .ok loc)
    (noDirectory : Path.namesDirectory path = false) (file : fs.node? loc = some (.file text)) :
    fs.read path = .ok text := by
  rw [read, lookUp, located]
  simp [bind, Except.bind, file, noDirectory]

theorem read_putFile {path : String} {loc : Location} (placed : fs.fileLocation path = .ok loc)
    (text : String) : (fs.putNode loc (.file text)).read path = .ok text := by
  obtain ⟨located, free, noDirectory⟩ := fileLocation_eq_ok_iff.mp placed
  have same := sameBut_putFile free text
  refine read_of_file (same.locate located) noDirectory ?_
  rw [node?_putNode, if_neg (ne_nil_of_node? free), if_pos rfl]

theorem renameFile_eq {path newPath text : String} {loc : Location}
    (found : fs.read path = .ok text) (placed : fs.fileLocation newPath = .ok loc) :
    fs.renameFile path newPath = .ok ((fs.removeFile path).putNode loc (.file text)) := by
  rw [renameFile, found, renameLocation_eq_ok_iff.mpr placed]
  rfl

theorem renameFile_eq_error {path newPath text : String} (found : fs.read path = .ok text)
    (refused : ¬ ∃ loc, fs.fileLocation newPath = .ok loc) :
    ∃ e, fs.renameFile path newPath = .error e := by
  rw [renameFile, found]
  cases placed : fs.renameLocation newPath with
  | ok loc => exact absurd ⟨loc, renameLocation_eq_ok_iff.mp placed⟩ refused
  | error e => exact ⟨e, rfl⟩

/-- Reading depends on where a path leads and what is there. -/
theorem read_congr {path : String} (located : b.locate path = a.locate path)
    (found : ∀ loc, a.locate path = .ok loc → b.node? loc = a.node? loc) :
    b.read path = a.read path := by
  rw [read, read, lookUp, lookUp, located]
  cases leads : a.locate path with
  | error e => rfl
  | ok loc =>
    dsimp only [bind, Except.bind]
    rw [found loc leads]

theorem walk_name {start l : Location} {ps : List Part} (walked : fs.walk start ps = .ok l)
    (directory : fs.node? l = some .directory) (s : String) :
    fs.walk start (ps ++ [.name s]) =
      if isName s then .ok (l ++ [s]) else .error .nameTooLong := by
  rw [walk_append, walked]
  show fs.walk l [.name s] = _
  rw [walk_single, next_of_directory directory]

/-- The place that another last part leads to is not that of the name. -/
theorem place_ne {l loc : Location} {other name : List Char} (differs : other ≠ name)
    {part : Part} (isLast : part = .up ∨ part = .name (String.ofList other))
    (stepped : fs.next l part = .ok loc) : l ++ [String.ofList name] ≠ loc := by
  have directory := directory_of_next stepped
  rcases isLast with rfl | rfl
  · rw [next.eq_def, directory] at stepped
    obtain rfl := Except.ok.inj stepped
    intro same
    have longer := congrArg List.length same
    simp only [List.length_append, List.length_singleton, List.length_dropLast] at longer
    omega
  · rw [next_of_directory directory] at stepped
    split at stepped
    · obtain rfl := Except.ok.inj stepped
      intro same
      obtain ⟨_, last⟩ := List.append_inj' same rfl
      exact differs (String.ofList_injective (List.cons.inj last).1).symm
    · cases stepped

/-- What is done to the file under another name in the same place is not seen by a reader. -/
theorem SameBut.read {path : String} {front name other : List Char} {loc : Location}
    (split : Path.splitName? path = some (front, name)) (last : Path.IsLast other)
    (differs : other ≠ name)
    (located : a.locate (String.ofList (front ++ other)) = .ok loc) (same : SameBut loc a b) :
    b.read path = a.read path := by
  obtain ⟨pathParts, otherParts⟩ := Path.parts_of_splitName? split
  obtain ⟨part, isPart, isLast⟩ : ∃ part, Path.part? other = some part ∧
      (part = .up ∨ part = .name (String.ofList other)) := by
    rcases Path.part?_last last with up | found
    · exact ⟨_, up, .inl rfl⟩
    · exact ⟨_, found, .inr rfl⟩
  -- both paths lead through one directory, which stays
  obtain ⟨checked, walked⟩ := locate_eq_ok_iff.mp located
  rw [otherParts last, isPart, walk_append, Except.bind_eq_ok_iff] at walked
  obtain ⟨l, walked, stepped⟩ := walked
  rw [Option.toList_some, walk_single] at stepped
  have directory := directory_of_next stepped
  have leads := walk_name walked directory (String.ofList name)
  have leads' :=
    walk_name (same.walk walked) ((same.directories l).mp directory) (String.ofList name)
  rw [← pathParts] at leads leads'
  refine read_congr ?_ ?_
  · rw [locate_eq, locate_eq, ← same.current, leads, leads']
  · intro place found
    refine (same.elsewhere place ?_).symm
    obtain ⟨_, found⟩ := locate_eq_ok_iff.mp found
    rw [leads] at found
    split at found
    · obtain rfl := Except.ok.inj found
      exact place_ne differs isLast stepped
    · cases found

end LineagePorts.FileSystem
