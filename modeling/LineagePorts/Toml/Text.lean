import LineagePorts.Text.Decimal
import LineagePorts.Text.Hexadecimal

/-!
# Texts of TOML

The four ways to write a text in TOML 1.0: between one or three quotes, where a backslash escapes,
and between one or three apostrophes, where it does not. Texts in three marks may span lines, and a
line break right after the opening marks does not count.
-/

namespace LineagePorts.Toml

def isBlank (c : Char) : Bool := c = ' ' || c = '\t'

def skipBlanks (cs : List Char) : List Char := cs.dropWhile isBlank

/-- The rest behind a line break at the start of a text. -/
def lineBreak? : List Char → Option (List Char)
  | '\n' :: cs => some cs
  | '\r' :: '\n' :: cs => some cs
  | _ => none

/-- Characters that may stand for themselves: all but the controls, of which the tab may. -/
def isPlain (c : Char) : Bool :=
  c = '\t' || (0x20 ≤ c.toNat && c.toNat ≠ 0x7F)

/-- The character whose code point these hexadecimal digits denote. -/
def codePoint? (digits : List Char) : Option Char := do
  let n ← Text.ofHexadecimal? digits
  if h : n.isValidChar then some (Char.ofNatAux n h) else none

def escaped? : Char → Option Char
  | 'b' => some '\x08'
  | 't' => some '\t'
  | 'n' => some '\n'
  | 'f' => some '\x0c'
  | 'r' => some '\r'
  | '"' => some '"'
  | '\\' => some '\\'
  | _ => none

/-- Whether only blanks stand before the next line break. -/
def endsLine (cs : List Char) : Bool := (lineBreak? (skipBlanks cs)).isSome

/-- A text that was read and the rest behind it. `done` holds its characters, last first. -/
def finish (done rest : List Char) : Option (String × List Char) :=
  some (String.ofList done.reverse, rest)

def scanBasic (done : List Char) : List Char → Option (String × List Char)
  | [] => none
  | '"' :: cs => finish done cs
  | '\\' :: 'u' :: a :: b :: c :: d :: cs =>
    match codePoint? [a, b, c, d] with
    | some x => scanBasic (x :: done) cs
    | none => none
  | '\\' :: 'U' :: a :: b :: c :: d :: e :: f :: g :: h :: cs =>
    match codePoint? [a, b, c, d, e, f, g, h] with
    | some x => scanBasic (x :: done) cs
    | none => none
  | '\\' :: c :: cs =>
    match escaped? c with
    | some x => scanBasic (x :: done) cs
    | none => none
  | c :: cs => if isPlain c then scanBasic (c :: done) cs else none

def scanLiteral (done : List Char) : List Char → Option (String × List Char)
  | [] => none
  | '\'' :: cs => finish done cs
  | c :: cs => if isPlain c then scanLiteral (c :: done) cs else none

/-- Up to five quotes may end a text, the last three of which close it. While `skipping`, which
starts at a backslash that ends a line, white space and line breaks do not count. -/
def scanLongBasic (done : List Char) (skipping : Bool) : List Char → Option (String × List Char)
  | [] => none
  | '"' :: '"' :: '"' :: '"' :: '"' :: cs => finish ('"' :: '"' :: done) cs
  | '"' :: '"' :: '"' :: '"' :: cs => finish ('"' :: done) cs
  | '"' :: '"' :: '"' :: cs => finish done cs
  | '\n' :: cs => scanLongBasic (if skipping then done else '\n' :: done) skipping cs
  | '\r' :: '\n' :: cs => scanLongBasic (if skipping then done else '\n' :: done) skipping cs
  | '\\' :: 'u' :: a :: b :: c :: d :: cs =>
    match codePoint? [a, b, c, d] with
    | some x => scanLongBasic (x :: done) false cs
    | none => none
  | '\\' :: 'U' :: a :: b :: c :: d :: e :: f :: g :: h :: cs =>
    match codePoint? [a, b, c, d, e, f, g, h] with
    | some x => scanLongBasic (x :: done) false cs
    | none => none
  | '\\' :: c :: cs =>
    if endsLine (c :: cs) then scanLongBasic done true cs
    else
      match escaped? c with
      | some x => scanLongBasic (x :: done) false cs
      | none => none
  | c :: cs =>
    if skipping && isBlank c then scanLongBasic done true cs
    else if isPlain c then scanLongBasic (c :: done) false cs
    else none

def scanLongLiteral (done : List Char) : List Char → Option (String × List Char)
  | [] => none
  | '\'' :: '\'' :: '\'' :: '\'' :: '\'' :: cs => finish ('\'' :: '\'' :: done) cs
  | '\'' :: '\'' :: '\'' :: '\'' :: cs => finish ('\'' :: done) cs
  | '\'' :: '\'' :: '\'' :: cs => finish done cs
  | '\n' :: cs => scanLongLiteral ('\n' :: done) cs
  | '\r' :: '\n' :: cs => scanLongLiteral ('\n' :: done) cs
  | c :: cs => if isPlain c then scanLongLiteral (c :: done) cs else none

def skipLineBreak (cs : List Char) : List Char := (lineBreak? cs).getD cs

/-- The text at the start of `cs` and the rest, if `cs` starts with a quote or an apostrophe. -/
def text? : List Char → Option (String × List Char)
  | '"' :: '"' :: '"' :: cs => scanLongBasic [] false (skipLineBreak cs)
  | '"' :: cs => scanBasic [] cs
  | '\'' :: '\'' :: '\'' :: cs => scanLongLiteral [] (skipLineBreak cs)
  | '\'' :: cs => scanLiteral [] cs
  | _ => none

end LineagePorts.Toml
