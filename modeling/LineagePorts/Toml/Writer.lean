import LineagePorts.Text.Decimal
import LineagePorts.Toml.Reader

/-!
# Writing TOML

Documents of texts, integers and lists of texts. A text is written between quotes if it needs no
escape there, else between apostrophes, else in three quotes or three apostrophes, each if it needs
no escape there; only where none of these will do are characters escaped.
-/

namespace LineagePorts.Toml

/-- The longest run of a character in a text, counted on from `run` and `longest`. -/
def longestRun (c : Char) (run longest : Nat) : List Char → Nat
  | [] => longest
  | d :: ds =>
    if d = c then longestRun c (run + 1) (max longest (run + 1)) ds
    else longestRun c 0 longest ds

/-- Controls that can only be written by an escape, wherever they stand. -/
def needsCode (c : Char) : Bool := c ≠ '\n' && !isPlain c

inductive TextStyle where
  | basic
  | literal
  | longBasic
  | longLiteral
deriving DecidableEq

def textStyle (cs : List Char) : TextStyle :=
  let quotes := longestRun '"' 0 0 cs
  let apostrophes := longestRun '\'' 0 0 cs
  let codes := cs.any needsCode
  let backslash := cs.contains '\\'
  let lines := cs.contains '\n'
  if !codes && !backslash && quotes = 0 && !lines then .basic
  else if !codes && apostrophes = 0 && !lines then .literal
  else if !codes && !backslash && quotes ≤ 2 then .longBasic
  else if !codes && apostrophes ≤ 2 then .longLiteral
  else if lines then .longBasic
  else .basic

def upperHexDigit (n : Nat) : Char :=
  if n < 10 then Char.ofNat (48 + n) else Char.ofNat (55 + n)

/-- A character other than the quote between quotes. Line breaks stay in a text that spans lines. -/
def escapeChar (long : Bool) (c : Char) : List Char :=
  if c = '\x08' then ['\\', 'b']
  else if c = '\t' then ['\\', 't']
  else if c = '\n' then if long then ['\n'] else ['\\', 'n']
  else if c = '\x0c' then ['\\', 'f']
  else if c = '\r' then ['\\', 'r']
  else if c = '\\' then ['\\', '\\']
  else if isPlain c then [c]
  else ['\\', 'u', '0', '0', upperHexDigit (c.toNat / 16), upperHexDigit (c.toNat % 16)]

/-- A text between quotes. A quote is escaped, but in a text that spans lines only behind two
others; `quotes` counts those right before, and an escaped quote starts the count anew. -/
def escapeText (long : Bool) (quotes : Nat) : List Char → List Char
  | [] => []
  | c :: cs =>
    if c = '"' then
      if (if long then 2 else 0) ≤ quotes then '\\' :: '"' :: escapeText long 0 cs
      else '"' :: escapeText long (quotes + 1) cs
    else escapeChar long c ++ escapeText long 0 cs

def writeText (s : String) : List Char :=
  let cs := s.toList
  let opening : List Char := if cs.contains '\n' then ['\n'] else []
  match textStyle cs with
  | .basic => '"' :: escapeText false 0 cs ++ ['"']
  | .literal => '\'' :: cs ++ ['\'']
  | .longBasic => ['"', '"', '"'] ++ opening ++ escapeText true 0 cs ++ ['"', '"', '"']
  | .longLiteral => ['\'', '\'', '\''] ++ opening ++ cs ++ ['\'', '\'', '\'']

/-- A key is bare if it can be, and otherwise a text on one line. -/
def writeKey (key : String) : List Char :=
  let cs := key.toList
  let codes := cs.any fun c => !isPlain c
  if !cs.isEmpty && cs.all isKeyChar then cs
  else if !codes && !cs.contains '\\' && !cs.contains '"' then
    '"' :: cs.flatMap (escapeChar false) ++ ['"']
  else if !codes && !cs.contains '\'' then '\'' :: cs ++ ['\'']
  else '"' :: escapeText false 0 cs ++ ['"']

inductive Inline where
  | text (s : String)
  | integer (n : Int)
  | texts (items : List String)
deriving DecidableEq

def commaSeparated : List (List Char) → List Char
  | [] => []
  | [x] => x
  | x :: xs => x ++ ',' :: ' ' :: commaSeparated xs

def Inline.write : Inline → List Char
  | .text s => writeText s
  | .integer n => Text.signed n
  | .texts items => '[' :: commaSeparated (items.map writeText) ++ [']']

def Inline.toData : Inline → Data
  | .text s => .text s
  | .integer n => .int n
  | .texts items => .list (items.map .text)

def writePath : List String → List Char
  | [] => []
  | [key] => writeKey key
  | key :: keys => writeKey key ++ '.' :: writePath keys

inductive Header where
  | table (path : List String)
  | item (path : List String)
deriving DecidableEq

def Header.write : Header → List Char
  | .table path => '[' :: writePath path ++ [']', '\n']
  | .item path => '[' :: '[' :: writePath path ++ [']', ']', '\n']

def writeLine (line : String × Inline) : List Char :=
  writeKey line.1 ++ ' ' :: '=' :: ' ' :: line.2.write ++ ['\n']

/-- A table with its header and its lines. -/
structure Section where
  header : Header
  lines : List (String × Inline)
deriving DecidableEq

/-- A document starts with lines outside of all tables. -/
structure Layout where
  lines : List (String × Inline)
  sections : List Section
deriving DecidableEq

def Section.write (s : Section) : List Char :=
  '\n' :: s.header.write ++ s.lines.flatMap writeLine

def Layout.write (l : Layout) : List Char :=
  l.lines.flatMap writeLine ++ l.sections.flatMap Section.write

end LineagePorts.Toml
