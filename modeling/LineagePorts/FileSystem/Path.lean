/-!
# Paths

A path is a text in which a slash separates names. A single dot stands for the directory itself and
is dropped except at the start, two dots stand for the directory above. Two texts are the same path
when they have the same parts.
-/

namespace LineagePorts.Path

inductive Part where
  | root
  | here
  | up
  | name (s : String)
deriving DecidableEq

/-- The pieces of a text between slashes. -/
def pieces : List Char → List (List Char)
  | [] => [[]]
  | c :: cs =>
    match pieces cs with
    | [] => [[c]]
    | p :: ps => if c = '/' then [] :: p :: ps else (c :: p) :: ps

def part? (piece : List Char) : Option Part :=
  if piece = [] || piece = ['.'] then none
  else if piece = ['.', '.'] then some .up
  else some (.name (String.ofList piece))

def parts (path : String) : List Part :=
  let cs := path.toList
  let start : List Part :=
    match cs with
    | '/' :: _ => [.root]
    | ['.'] => [.here]
    | '.' :: '/' :: _ => [.here]
    | _ => []
  start ++ (pieces cs).filterMap part?

def same (a b : String) : Bool := parts a = parts b

/-- A path that is given last character first, without slashes and single dots at its end. A slash
or dot that begins the path stays. -/
def dropTail : List Char → List Char
  | '/' :: cs => if cs.isEmpty then ['/'] else dropTail cs
  | '.' :: '/' :: cs => if cs.isEmpty then ['/'] else dropTail cs
  | cs => cs

def isSlash (c : Char) : Bool := c = '/'

/-- The path without its last part, or nothing for the root and the empty path. -/
def parent? (path : String) : Option String :=
  let cs := dropTail path.toList.reverse
  if cs = [] || cs = ['/'] then none
  else some (String.ofList (dropTail (cs.dropWhile fun c => !isSlash c)).reverse)

/-- What stands in front of the last name of a path, and that name, if the path ends in one. -/
def splitName? (path : String) : Option (List Char × List Char) :=
  let cs := dropTail path.toList.reverse
  let name := (cs.takeWhile fun c => !isSlash c).reverse
  if name = [] || name = ['.'] || name = ['.', '.'] then none
  else some ((cs.dropWhile fun c => !isSlash c).reverse, name)

/-- A name up to its last dot. A dot that begins the name does not count. -/
def stem (name : List Char) : List Char :=
  match name.reverse.dropWhile (fun c => c ≠ '.') with
  | [] => name
  | [_] => name
  | _ :: before => before.reverse

/-- Whether a path ends in a single dot behind a slash, slashes at its end apart. -/
def endsInDot (path : String) : Bool :=
  match path.toList.reverse.dropWhile isSlash with
  | '.' :: '/' :: _ => true
  | _ => false

/-- Whether a path asks for a directory by the way it ends. -/
def namesDirectory (path : String) : Bool :=
  path.toList.reverse.head? = some '/' || endsInDot path

/-- The path with another extension, which takes the place of that of its last name. The old one is
taken away up to its dot first: two dots that are left at the end of the path are no name, and such
a path gets no new extension. -/
def withExtension (extension path : String) : String :=
  match splitName? path with
  | none => path
  | some (front, name) =>
    let kept := stem name
    if kept = ['.'] && !namesDirectory path then String.ofList (front ++ ['.', '.'])
    else String.ofList (front ++ kept ++ '.' :: extension.toList)

end LineagePorts.Path
