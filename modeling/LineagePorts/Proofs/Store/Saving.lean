import LineagePorts.Proofs.FileSystem.Frame
import LineagePorts.Proofs.Store.Snapshot

/-!
# Saving a store

A store is saved when the disk takes both the temporary file and the file of the store and does not
fail in between. Then the file holds the new text. Otherwise the file is what it was, whatever is
left under the temporary path.
-/

namespace LineagePorts.FileStore

/-- The temporary path differs from the path of the store in the last name only. -/
theorem temporaryPath_cases {path : String} (apart : temporaryPath path ≠ path) :
    ∃ front name other, Path.splitName? path = some (front, name) ∧ Path.IsLast other ∧
      other ≠ name ∧ temporaryPath path = String.ofList (front ++ other) := by
  rw [temporaryPath, Path.withExtension] at apart ⊢
  cases split : Path.splitName? path with
  | none =>
    rw [split] at apart
    exact absurd rfl apart
  | some parted =>
    obtain ⟨front, name⟩ := parted
    obtain ⟨_, last, notUp, _⟩ := Path.splitName?_spec split
    refine ⟨front, name, ?_⟩
    dsimp only
    split
    · exact ⟨['.', '.'], rfl, ⟨by decide, by decide, by decide⟩, notUp.symm, rfl⟩
    · have extension : "json.tmp".toList = "json".toList ++ '.' :: "tmp".toList := by decide
      refine ⟨Path.stem name ++ '.' :: "json.tmp".toList, rfl,
        Path.isLast_extended last.plain (by decide) (by decide), ?_, ?_⟩
      · rw [extension]
        exact Path.extended_ne name (by decide)
      · rw [List.append_assoc]

/-- What happens to the temporary file is not seen at the path of the store. -/
theorem read_of_sameBut {a b : FileSystem} {path : String} {loc : Location}
    (apart : temporaryPath path ≠ path)
    (placed : a.fileLocation (temporaryPath path) = .ok loc) (same : a.SameBut loc b) :
    b.read path = a.read path := by
  obtain ⟨front, name, other, split, last, differs, temporary⟩ := temporaryPath_cases apart
  obtain ⟨located, _⟩ := FileSystem.fileLocation_eq_ok_iff.mp placed
  rw [temporary] at located
  exact same.read split last differs located

/-- The disk takes a file under either path and does not fail while the store is saved. -/
def Saves (disk : FileSystem) (fault : Option SaveFault) (path : String) : Prop :=
  fault = none ∧ (∃ loc, disk.fileLocation (temporaryPath path) = .ok loc) ∧
    ∃ loc, disk.fileLocation path = .ok loc

theorem save_of_saves {disk : FileSystem} {fault : Option SaveFault} {path : String}
    (saves : Saves disk fault path) (text : String) :
    ∃ saved, save disk fault path text = (.ok (), saved) ∧ saved.read path = .ok text := by
  obtain ⟨rfl, ⟨loc, placed⟩, ⟨target, targetPlaced⟩⟩ := saves
  obtain ⟨_, free, _⟩ := FileSystem.fileLocation_eq_ok_iff.mp placed
  have written := FileSystem.sameBut_putFile free text
  have removed := written.trans (FileSystem.sameBut_removeFile (written.fileLocation placed))
  have renamed := FileSystem.renameFile_eq
    (FileSystem.read_putFile placed text) (written.fileLocation targetPlaced)
  refine ⟨_, ?_, FileSystem.read_putFile (removed.fileLocation targetPlaced) text⟩
  simp only [save.eq_def, FileSystem.writeFile_eq placed, renamed]

/-- When the temporary file cannot be written, nothing is done to the disk. -/
theorem save_of_unwritable {disk : FileSystem} {path : String}
    (unwritable : ¬ ∃ loc, disk.fileLocation (temporaryPath path) = .ok loc)
    (fault : Option SaveFault) (text : String) :
    ∃ cause, save disk fault path text = (.error cause, disk) := by
  have refused := FileSystem.writeFile_eq_error unwritable
  cases fault with
  | none =>
    obtain ⟨e, failed⟩ := refused text
    refine ⟨.cannotWrite (temporaryPath path) e, ?_⟩
    simp only [save.eq_def, failed]
  | some fault =>
    cases fault with
    | write trouble left =>
      refine ⟨.cannotWrite (temporaryPath path) trouble, ?_⟩
      cases left with
      | none => rfl
      | some half =>
        obtain ⟨e, failed⟩ := refused half
        simp only [save.eq_def, leave, failed]
        rfl
    | replace trouble =>
      obtain ⟨e, failed⟩ := refused text
      refine ⟨.cannotWrite (temporaryPath path) e, ?_⟩
      simp only [save.eq_def, failed]

theorem save_of_not_saves {disk : FileSystem} {fault : Option SaveFault} {path : String}
    (apart : temporaryPath path ≠ path) (fails : ¬ Saves disk fault path) (text : String) :
    ∃ cause left, save disk fault path text = (.error cause, left) ∧
      left.read path = disk.read path := by
  by_cases writable : ∃ loc, disk.fileLocation (temporaryPath path) = .ok loc
  · obtain ⟨loc, placed⟩ := writable
    obtain ⟨_, free, _⟩ := FileSystem.fileLocation_eq_ok_iff.mp placed
    have written := FileSystem.sameBut_putFile free
    have removed := (written text).trans
      (FileSystem.sameBut_removeFile ((written text).fileLocation placed))
    cases fault with
    | none =>
      have refused : ¬ ∃ target,
          (disk.putNode loc (.file text)).fileLocation path = .ok target := by
        rintro ⟨target, targetPlaced⟩
        exact fails ⟨rfl, ⟨loc, placed⟩, target, (written text).symm.fileLocation targetPlaced⟩
      obtain ⟨e, renamed⟩ :=
        FileSystem.renameFile_eq_error (FileSystem.read_putFile placed text) refused
      refine ⟨.cannotReplace path e, _, ?_, read_of_sameBut apart placed removed⟩
      simp only [save.eq_def, FileSystem.writeFile_eq placed, renamed]
    | some fault =>
      cases fault with
      | write trouble left =>
        refine ⟨_, _, rfl, ?_⟩
        cases left with
        | none => rfl
        | some half =>
          rw [leave, FileSystem.writeFile_eq placed]
          exact read_of_sameBut apart placed (written half)
      | replace trouble =>
        refine ⟨.cannotReplace path trouble, _, ?_, read_of_sameBut apart placed removed⟩
        simp only [save.eq_def, FileSystem.writeFile_eq placed]
  · obtain ⟨cause, failed⟩ := save_of_unwritable writable fault text
    exact ⟨cause, disk, failed, rfl⟩

end LineagePorts.FileStore
