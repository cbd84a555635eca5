import LineagePorts.Pattern.Basic
import LineagePorts.Text.Decimal

/-!
# Log filters

A log filter is a list of directives with commas between them. A directive names a target, a span
in brackets with a field in braces, or both, and may give a level behind an equals sign; a level
may also stand alone.

White space around a directive is passed over when its parts are looked for, but it counts in the
text from which they are cut, so the parts of a directive with white space in front are those that
begin and end as many bytes earlier.
-/

namespace LineagePorts.LogFilter

/-- Why a filter is refused. -/
inductive Fault where
  | malformed
  /-- A part would begin or end inside a character. -/
  | splitCharacter
deriving DecidableEq

def require (condition : Bool) : Except Fault Unit :=
  if condition then .ok () else .error .malformed

def levels : List String := ["off", "error", "warn", "info", "debug", "trace"]

/-- The digits of a level given as a number, which may have a plus sign. -/
def levelDigits : List Char → List Char
  | '+' :: cs => cs
  | cs => cs

/-- A level is given by its name, in letters of either case, or by its number. -/
def isLevel (cs : List Char) : Bool :=
  let digits := levelDigits cs
  levels.contains (String.ofList (cs.map Char.toLower)) ||
    (!digits.isEmpty && digits.all Text.isDigit && Text.ofDecimal digits < levels.length)

def unsigned : List Char → List Char
  | '+' :: cs => cs
  | '-' :: cs => cs
  | cs => cs

/-- Nothing, or a mark and a whole number with an optional sign. -/
def isExponent : List Char → Bool
  | [] => true
  | c :: cs =>
    let digits := unsigned cs
    (c = 'e' || c = 'E') && !digits.isEmpty && digits.all Text.isDigit

/-- A decimal number, with digits on at least one side of the point. -/
def isDecimal (cs : List Char) : Bool :=
  let (whole, rest) := cs.span Text.isDigit
  match rest with
  | '.' :: rest =>
    let (fraction, rest) := rest.span Text.isDigit
    !(whole.isEmpty && fraction.isEmpty) && isExponent rest
  | rest => !whole.isEmpty && isExponent rest

def isNumber (cs : List Char) : Bool :=
  let cs := unsigned cs
  ["inf", "infinity", "nan"].contains (String.ofList (cs.map Char.toLower)) || isDecimal cs

/-- A field has a name and may have a value behind an equals sign, which is a number or a pattern.
What stands behind a second equals sign is passed over. -/
def isField (cs : List Char) : Bool :=
  match cs.dropWhile (· ≠ '=') with
  | [] => !cs.isEmpty
  | _ :: rest =>
    let value := rest.takeWhile (· ≠ '=')
    isNumber value || Pattern.isValid value

/-- How many bytes a text has in UTF-8. -/
def size : List Char → Nat
  | [] => 0
  | c :: cs => c.utf8Size + size cs

def dropBytes : Nat → List Char → Except Fault (List Char)
  | _, [] => .ok []
  | n, c :: cs =>
    if n = 0 then .ok (c :: cs)
    else if c.utf8Size ≤ n then dropBytes (n - c.utf8Size) cs
    else .error .splitCharacter

def takeBytes : Nat → List Char → Except Fault (List Char)
  | _, [] => .ok []
  | n, c :: cs =>
    if n = 0 then .ok []
    else if c.utf8Size ≤ n then (takeBytes (n - c.utf8Size) cs).map (c :: ·)
    else .error .splitCharacter

/-- The part of a text between two places, which are counted in bytes. -/
def cut (text : List Char) (start stop : Nat) : Except Fault (List Char) := do
  takeBytes (stop - start) (← dropBytes start text)

/-- What a directive may start with. -/
def isStart (c : Char) : Bool :=
  c = '[' || c = '-' || c = ':' || c = '_' || Text.isAlphanumeric c

/-- Nothing, or an equals sign with a level behind it, which may be left out. -/
def checkLevel (text : List Char) (start : Nat) : List Char → Except Fault Unit
  | [] => .ok ()
  | '=' :: _ => do
    let level ← dropBytes (start + 1) text
    require (level.isEmpty || isLevel level)
  | _ => .error .malformed

/-- A field and the end of its span. -/
def checkField (text : List Char) (start : Nat) (cs : List Char) : Except Fault Unit := do
  let (field, rest) := cs.span (· ≠ '\x7d')
  let stop := start + size field
  require !rest.isEmpty
  require (isField (← cut text start stop))
  match rest with
  | _ :: ']' :: rest => checkLevel text (stop + 2) rest
  | _ => .error .malformed

/-- A span behind its opening bracket. -/
def checkSpan (text : List Char) (start : Nat) (cs : List Char) : Except Fault Unit := do
  let (name, rest) := cs.span fun c => c ≠ ']' && c ≠ '\x7b'
  let stop := start + size name
  match rest with
  | [] => .error .malformed
  | c :: rest =>
    discard (cut text start stop)
    if c = ']' then checkLevel text (stop + 1) rest else checkField text (stop + 1) rest

def checkDirective (text : List Char) : Except Fault Unit := do
  let body := Text.trim text
  require (body.head?.any isStart)
  let (target, rest) := body.span fun c => c ≠ '=' && c ≠ '['
  let stop := size target
  if !rest.isEmpty then discard (cut text 0 stop)
  match rest with
  | '[' :: rest => checkSpan text (stop + 1) rest
  | rest => checkLevel text stop rest

/-- Nothing may stand between two commas, and then there is no directive. -/
def check (filter : String) : Except Fault Unit :=
  (filter.splitOn ",").forM fun directive =>
    if directive.isEmpty then .ok () else checkDirective directive.toList

end LineagePorts.LogFilter
