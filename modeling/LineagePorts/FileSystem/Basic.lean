import LineagePorts.FileSystem.Path
import LineagePorts.FileSystem.Trouble
import LineagePorts.Table

/-!
# Files and directories

A tree of directories and text files with a current directory, as far as a store kept in a file
and the command line need it: looking up, reading, writing, renaming and removing.
-/

namespace LineagePorts

/-- The names on the way from the root to a file or directory. -/
abbrev Location := List String

inductive Node where
  | file (text : String)
  | directory
deriving DecidableEq

structure FileSystem where
  /-- All nodes but the root. -/
  nodes : Table Location Node
  current : Location
deriving DecidableEq

namespace FileSystem

def node? (fs : FileSystem) (loc : Location) : Option Node :=
  if loc = [] then some .directory else fs.nodes.get? loc

def longestName : Nat := 255

def longestPath : Nat := 4095

/-- A name has at most 255 bytes and no NUL. -/
def isName (s : String) : Bool :=
  s.utf8ByteSize ≤ longestName && !s.toList.contains '\x00'

/-- Where a path leads from `loc`. Everything before its last part must be a directory; the last
part need not exist. -/
def walk (fs : FileSystem) (loc : Location) : List Path.Part → Except Trouble Location
  | [] => .ok loc
  | part :: rest =>
    match fs.node? loc with
    | none => .error .missing
    | some (.file _) => .error .notDirectory
    | some .directory =>
      match part with
      | .root => fs.walk [] rest
      | .here => fs.walk loc rest
      | .up => fs.walk loc.dropLast rest
      | .name s => if isName s then fs.walk (loc ++ [s]) rest else .error .nameTooLong

def locate (fs : FileSystem) (path : String) : Except Trouble Location :=
  if path.toList.contains '\x00' then .error .nulInPath
  else if path.isEmpty then .error .missing
  else if longestPath < path.utf8ByteSize then .error .nameTooLong
  else fs.walk fs.current (Path.parts path)

/-- What a path names. A path that asks for a directory cannot name a file. -/
def lookUp (fs : FileSystem) (path : String) : Except Trouble Node := do
  let loc ← fs.locate path
  match fs.node? loc with
  | none => .error .missing
  | some .directory => .ok .directory
  | some (.file text) => if Path.namesDirectory path then .error .notDirectory else .ok (.file text)

def read (fs : FileSystem) (path : String) : Except Trouble String := do
  match ← fs.lookUp path with
  | .file text => .ok text
  | .directory => .error .isDirectory

def putNode (fs : FileSystem) (loc : Location) (n : Node) : FileSystem :=
  { fs with nodes := fs.nodes.insert loc n }

/-- Where a file may be put under a path: no directory is there, nor does the path ask for one. -/
def fileLocation (fs : FileSystem) (path : String) : Except Trouble Location := do
  let loc ← fs.locate path
  if fs.node? loc = some .directory || Path.namesDirectory path then .error .isDirectory
  else .ok loc

def writeFile (fs : FileSystem) (path text : String) : Except Trouble FileSystem :=
  (fs.fileLocation path).map fun loc => fs.putNode loc (.file text)

def removeFile (fs : FileSystem) (path : String) : FileSystem :=
  match fs.fileLocation path with
  | .ok loc => { fs with nodes := fs.nodes.erase loc }
  | .error _ => fs

/-- Why a file cannot be renamed to a path that asks for a directory. -/
def renameTrouble (fs : FileSystem) (path : String) (loc : Location) : Trouble :=
  if Path.endsInDot path then
    match fs.node? loc with
    | none => .missing
    | some (.file _) => .notDirectory
    | some .directory => .busy
  else .notDirectory

/-- Where a file may be renamed to. -/
def renameLocation (fs : FileSystem) (path : String) : Except Trouble Location := do
  let loc ← fs.locate path
  if Path.namesDirectory path then .error (fs.renameTrouble path loc)
  else if fs.node? loc = some .directory then .error .isDirectory
  else .ok loc

/-- Renames a file. A file at the new path is replaced. -/
def renameFile (fs : FileSystem) (path newPath : String) : Except Trouble FileSystem := do
  let text ← fs.read path
  let loc ← fs.renameLocation newPath
  return (fs.removeFile path).putNode loc (.file text)

/-- Makes the directories on the way from `loc` along the parts of a path, as far as it can, and
says whether it could make them all. -/
def makeAlong (fs : FileSystem) (loc : Location) : List Path.Part → Bool × FileSystem
  | [] => (true, fs)
  | .root :: rest => fs.makeAlong [] rest
  | .here :: rest => fs.makeAlong loc rest
  | .up :: rest => fs.makeAlong loc.dropLast rest
  | .name s :: rest =>
    let inner := loc ++ [s]
    match fs.node? inner with
    | some .directory => fs.makeAlong inner rest
    | some (.file _) => (false, fs)
    | none => if isName s then (fs.putNode inner .directory).makeAlong inner rest else (false, fs)

/-- Makes a directory and those above it. A directory called by a single dot is not made: it must be
there when those above it are. -/
def makeDirectories (fs : FileSystem) (path : String) : Bool × FileSystem :=
  let parts := Path.parts path
  if Path.endsInDot path then
    let (done, made) := fs.makeAlong fs.current parts.dropLast
    (done && (made.lookUp path).toOption = some .directory, made)
  else fs.makeAlong fs.current parts

/-- Removes a file, or a directory with all that is in it, and says whether it could. A directory
called by a single dot is emptied but stays. -/
def removeAll (fs : FileSystem) (path : String) : Bool × FileSystem :=
  match fs.lookUp path, fs.locate path with
  | .ok _, .ok loc =>
    let stays := Path.endsInDot path
    let kept := fun l => !loc.isPrefixOf l || (stays && l = loc)
    (!stays, { fs with nodes := fs.nodes.filter fun l _ => kept l })
  | _, _ => (false, fs)

/-- A file system that holds nothing but one directory, which is current. -/
def only (directory : String) : FileSystem :=
  ⟨Table.empty.insert [directory] .directory, [directory]⟩

/-- The paths of everything below the current directory, with a slash after each directory. -/
def list (fs : FileSystem) : List String :=
  fs.nodes.toList.filterMap fun (loc, n) =>
    if fs.current.isPrefixOf loc && loc ≠ fs.current then
      let path := "/".intercalate (loc.drop fs.current.length)
      match n with
      | .directory => some (path ++ "/")
      | .file _ => some path
    else none

end FileSystem

end LineagePorts
