import LineagePorts.Toml.Node
import LineagePorts.Toml.Scalar

/-!
# Reading TOML

A TOML 1.0 document is read line by line into statements, which are then put together. Lists and
tables in braces may nest 79 levels deep, and a dotted key may have 79 parts.
-/

namespace LineagePorts.Toml

def maxDepth : Nat := 79

def isKeyChar (c : Char) : Bool :=
  ('a' ≤ c && c ≤ 'z') || ('A' ≤ c && c ≤ 'Z') || ('0' ≤ c && c ≤ '9') || c = '_' || c = '-'

def simpleKey? : List Char → Option (String × List Char)
  | '"' :: cs => scanBasic [] cs
  | '\'' :: cs => scanLiteral [] cs
  | cs =>
    let (key, rest) := cs.span isKeyChar
    if key.isEmpty then none else some (String.ofList key, rest)

/-- The parts of a dotted key with blanks around each, and the rest. -/
def keyParts? : Nat → List Char → Option (List String × List Char)
  | 0, _ => none
  | most + 1, cs => do
    let (key, rest) ← simpleKey? (skipBlanks cs)
    match skipBlanks rest with
    | '.' :: rest => do
      let (keys, rest) ← keyParts? most rest
      return (key :: keys, rest)
    | rest => return ([key], rest)

/-- A dotted key as the path to its table and its last part. -/
def key? (cs : List Char) : Option ((List String × String) × List Char) := do
  let (keys, rest) ← keyParts? maxDepth cs
  return ((keys.dropLast, ← keys.getLast?), rest)

/-- The rest behind a comment that is at the start of a text. -/
def skipComment : List Char → List Char
  | '#' :: cs => cs.dropWhile isPlain
  | cs => cs

/-- The next line, if nothing but blanks and a comment is left of this one. -/
def lineEnd? (cs : List Char) : Option (List Char) :=
  match skipComment (skipBlanks cs) with
  | [] => some []
  | rest => lineBreak? rest

/-- The rest behind blanks, line breaks and comments. -/
def skipLines : Nat → List Char → List Char
  | 0, cs => cs
  | fuel + 1, cs =>
    match skipBlanks cs with
    | '#' :: rest => skipLines fuel (rest.dropWhile isPlain)
    | rest =>
      match lineBreak? rest with
      | some next => skipLines fuel next
      | none => rest

def skipSpace (cs : List Char) : List Char := skipLines cs.length cs

/-- The items of a list behind its opening bracket; `done` holds them, last first. A comma may
follow the last item. -/
def items? (value? : List Char → Option (Data × List Char)) :
    Nat → List Data → List Char → Option (Data × List Char)
  | 0, _, _ => none
  | fuel + 1, done, cs =>
    match skipSpace cs with
    | ']' :: rest => some (.list done.reverse, rest)
    | rest => do
      let (d, rest) ← value? rest
      match skipSpace rest with
      | ']' :: rest => return (.list (d :: done).reverse, rest)
      | ',' :: rest => items? value? fuel (d :: done) rest
      | _ => none

/-- A key, an equals sign and a value. -/
def keyValue? (value? : List Char → Option (Data × List Char)) (cs : List Char) :
    Option ((List String × String × Data) × List Char) := do
  let ((path, key), rest) ← key? cs
  let rest ← mark? '=' rest
  let (d, rest) ← value? (skipBlanks rest)
  return ((path, key, d), rest)

/-- The entries of a table in braces behind the opening brace. No comma follows the last one. -/
def entries? (value? : List Char → Option (Data × List Char)) :
    Nat → Entries → List Char → Option (Data × List Char)
  | 0, _, _ => none
  | fuel + 1, done, cs => do
    let ((path, key, d), rest) ← keyValue? value? cs
    let done ← done.addValue path key d .explicit
    match skipBlanks rest with
    | '\x7d' :: rest => return (.record (fieldsOf done), rest)
    | ',' :: rest => entries? value? fuel done rest
    | _ => none

/-- A value that nests at most `depth` levels deep. -/
def value? : Nat → List Char → Option (Data × List Char)
  | depth, '[' :: cs =>
    match depth with
    | 0 => none
    | depth + 1 => items? (value? depth) (cs.length + 1) [] cs
  | depth, '\x7b' :: cs =>
    match depth with
    | 0 => none
    | depth + 1 =>
      match skipBlanks cs with
      | '\x7d' :: rest => some (.record [], rest)
      | rest => entries? (value? depth) (rest.length + 1) [] rest
  | _, cs => ((text? cs).map fun (s, rest) => (Data.text s, rest)).or (scalar? cs)

/-- A statement at the start of a line that is not empty, and the rest of the line. -/
def statement? : List Char → Option (Statement × List Char)
  | '[' :: '[' :: cs => do
    let ((path, key), rest) ← key? cs
    return (.item path key, ← mark? ']' (← mark? ']' rest))
  | '[' :: cs => do
    let ((path, key), rest) ← key? cs
    return (.table path key, ← mark? ']' rest)
  | cs => do
    let ((path, key, d), rest) ← keyValue? (value? maxDepth) cs
    return (.value path key d, rest)

/-- Adds the lines of a text to a document. Each line takes at least one character. -/
def readLines : Nat → Document → List Char → Option Document
  | _, d, [] => some d
  | 0, _, _ :: _ => none
  | fuel + 1, d, cs =>
    match lineEnd? cs with
    | some rest => readLines fuel d rest
    | none => do
      let (s, rest) ← statement? (skipBlanks cs)
      readLines fuel (← d.add s) (← lineEnd? rest)

def dropByteOrderMark : List Char → List Char
  | '\ufeff' :: cs => cs
  | cs => cs

/-- The data that a TOML text denotes. -/
def read (s : String) : Option Data := do
  let cs := dropByteOrderMark s.toList
  let d ← readLines cs.length .empty cs
  return .record (fieldsOf d.entries)

end LineagePorts.Toml
