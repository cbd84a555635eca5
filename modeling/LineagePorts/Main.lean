import LineagePorts.CommandLine.Program
import Std.Time.DateTime.Timestamp

/-!
# The program

Carries a run of the command line out. The files that the run may touch are looked at first, the run
is computed, and the files that it changed are written before anything is printed.
-/

namespace LineagePorts.Main

def pathOf (loc : Location) : String := "/" ++ "/".intercalate loc

def locationOf (path : String) : Location := (path.splitOn "/").filter fun s => !s.isEmpty

/-- What is at a location. What is neither missing nor a text counts as a directory, because it
cannot be read or replaced either. -/
def observe (loc : Location) : IO (Option Node) := do
  let path := pathOf loc
  if ← ((← IO.currentDir) / path).isDir then return some .directory
  try return some (.file (← IO.FS.readFile path))
  catch
    | .noFileOrDirectory .. => return none
    | _ => return some .directory

/-- Adds what is found on the way from `loc` along the parts of a path. -/
def look (fs : FileSystem) (loc : Location) : List Path.Part → IO FileSystem
  | [] => return fs
  | .root :: rest => look fs [] rest
  | .here :: rest => look fs loc rest
  | .up :: rest => look fs loc.dropLast rest
  | .name s :: rest => do
    let inner := loc ++ [s]
    match ← observe inner with
    | none => return fs
    | some node => look (fs.putNode inner node) inner rest

def lookAt (fs : FileSystem) (path : String) : IO FileSystem :=
  look fs fs.current (Path.parts path)

/-- The files that a run may touch, with the directories on the way to them. -/
def load (a : CommandLine.Arguments) : IO FileSystem := do
  let here := locationOf (← IO.currentDir).toString
  let start : FileSystem :=
    (List.range here.length).foldl (fun fs n => fs.putNode (here.take (n + 1)) .directory)
      ⟨.empty, here⟩
  let fs ← lookAt start a.config
  let fs ← match a.command with
    | .apply path => lookAt fs path
    | _ => pure fs
  match CommandLine.loadConfig a.config fs with
  | .ok ⟨_, _, .jsonFile path, _, _⟩ => lookAt (← lookAt fs path) (FileStore.temporaryPath path)
  | _ => return fs

/-- Writes a file by way of a temporary one. -/
def writeOut (loc : Location) (text : String) : IO Unit := do
  let path := pathOf loc
  let temporary := FileStore.temporaryPath path
  IO.FS.writeFile temporary text
  IO.FS.rename temporary path

/-- Writes the files that differ from what they were. -/
def save (before after : FileSystem) : IO Unit := do
  for (loc, node) in after.nodes.toList do
    match node with
    | .file text => if before.node? loc ≠ some node then writeOut loc text
    | .directory => pure ()

def now : IO Instant := do
  let t ← Std.Time.Timestamp.now
  return (Instant.ofNanoseconds? t.toNanosecondsSinceUnixEpoch.val).getD Instant.epoch

def randomNumber : IO Nat := do
  return (← IO.getRandomBytes 10).toList.foldl (fun n b => n * 256 + b.toNat) 0

/-- The report of a run whose changes are on the disk. When they cannot be written, the run is that
of a disk on which no file can be written. -/
def carryOut (a : CommandLine.Arguments) : IO CommandLine.Report := do
  let disk ← load a
  let supply := CommandLine.Supply.ofClock (← now) (← randomNumber)
  let report := CommandLine.run a disk (supply none)
  try
    save disk report.disk
    return report
  catch e => return CommandLine.run a disk (supply (some (.write (.device (toString e)) none)))

end LineagePorts.Main

def main (arguments : List String) : IO UInt32 := do
  match LineagePorts.CommandLine.invocation arguments with
  | .help =>
    IO.println LineagePorts.CommandLine.helpText
    return 0
  | .version =>
    IO.println LineagePorts.CommandLine.versionText
    return 0
  | .usageError =>
    IO.eprintln LineagePorts.CommandLine.helpText
    return 2
  | .run a =>
    let report ← LineagePorts.Main.carryOut a
    for line in report.lines do
      IO.println line
    if let some e := report.complaint then
      IO.eprintln ("Error: " ++ e.message)
    return report.exitCode
