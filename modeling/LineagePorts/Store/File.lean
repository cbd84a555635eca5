import LineagePorts.FileSystem.Basic
import LineagePorts.Json.Reader
import LineagePorts.Json.Writer
import LineagePorts.Store.Call
import LineagePorts.Store.Data

/-!
# Stores kept in a file

A store whose snapshot is kept in a file. A change is made to a copy of the store, the copy is
written to a temporary file, that file is renamed to the store's path, and only then does the copy
take the place of the store. When writing or renaming fails, store and file stay as they were.
-/

namespace LineagePorts

/-- A failure of the disk in the middle of saving: the trouble, and what a failed write leaves in
the temporary file. -/
inductive SaveFault where
  | write (trouble : Trouble) (left : Option String)
  | replace (trouble : Trouble)
deriving DecidableEq

def Snapshot.fileText (s : Snapshot) : String := Json.pretty s.toData

def Snapshot.ofFileText? (text : String) : Option Snapshot :=
  (Json.read text).bind (Snapshot.ofData .json)

structure FileStore where
  store : Store
  path : String
  disk : FileSystem
deriving DecidableEq

namespace FileStore

def temporaryPath (path : String) : String := Path.withExtension "json.tmp" path

def checkParent (disk : FileSystem) (path : String) : Except ServerFault Unit :=
  match Path.parent? path with
  | none => .ok ()
  | some parent =>
    if parent.isEmpty then .ok ()
    else
      match disk.lookUp parent with
      | .ok .directory => .ok ()
      | .ok (.file _) => .error (.storeDirectoryNotDirectory parent)
      | .error t => .error (.storeDirectoryUnusable parent t)

/-- The snapshot in a store file. A missing file counts as an empty one. -/
def load (disk : FileSystem) (path : String) : Except ServerFault Snapshot :=
  match disk.read path with
  | .ok text =>
    match Snapshot.ofFileText? text with
    | some s => .ok s
    | none => .error (.storeFileCorrupt path)
  | .error .missing => .ok ⟨[], []⟩
  | .error t => .error (.storeFileUnreadable path t)

def open? (disk : FileSystem) (path : String) : Except Failure FileStore :=
  match checkParent disk path with
  | .error fault => .error (.server fault)
  | .ok () =>
    match load disk path with
    | .error fault => .error (.server fault)
    | .ok s => .ok ⟨.ofSnapshot s, path, disk⟩

def leave (disk : FileSystem) (path : String) : Option String → FileSystem
  | none => disk
  | some text => (disk.writeFile path text).toOption.getD disk

/-- Writes a text to a path by way of a temporary file. -/
def save (disk : FileSystem) (fault : Option SaveFault) (path text : String) :
    Except ServerFault Unit × FileSystem :=
  let temporary := temporaryPath path
  match fault with
  | some (.write trouble left) =>
    (.error (.cannotWrite temporary trouble), leave disk temporary left)
  | some (.replace trouble) =>
    match disk.writeFile temporary text with
    | .error t => (.error (.cannotWrite temporary t), disk)
    | .ok written => (.error (.cannotReplace path trouble), written.removeFile temporary)
  | none =>
    match disk.writeFile temporary text with
    | .error t => (.error (.cannotWrite temporary t), disk)
    | .ok written =>
      match written.renameFile temporary path with
      | .error t => (.error (.cannotReplace path t), written.removeFile temporary)
      | .ok saved => (.ok (), saved)

/-- Makes a change and keeps it once it is saved. -/
def commit {α : Type} (f : FileStore) (fault : Option SaveFault)
    (change : Store → Except Failure (α × Store)) : Except Failure α × FileStore :=
  match change f.store with
  | .error e => (.error e, f)
  | .ok (a, next) =>
    match save f.disk fault f.path next.snapshot.fileText with
    | (.error fault, disk) => (.error (.server fault), { f with disk := disk })
    | (.ok (), disk) => (.ok a, { f with store := next, disk := disk })

end FileStore

end LineagePorts
