import LineagePorts.Data.Basic
import LineagePorts.Text.Quoted
import LineagePorts.Text.Decimal

/-!
# Writing JSON

Data as JSON text, either without white space or laid out over lines with an indentation of two
spaces. Only the quote, the backslash and control characters are escaped.
-/

namespace LineagePorts.Json

def escapeChar (c : Char) : List Char :=
  if c = '"' then ['\\', '"']
  else if c = '\\' then ['\\', '\\']
  else if c = '\x08' then ['\\', 'b']
  else if c = '\x0c' then ['\\', 'f']
  else if c = '\n' then ['\\', 'n']
  else if c = '\r' then ['\\', 'r']
  else if c = '\t' then ['\\', 't']
  else if c.toNat < 0x20 then
    ['\\', 'u', '0', '0', Text.hexDigit (c.toNat / 16), Text.hexDigit (c.toNat % 16)]
  else [c]

def writeText (s : String) : List Char :=
  '"' :: s.toList.flatMap escapeChar ++ ['"']

inductive Style where
  | compact
  | pretty
deriving DecidableEq

/-- What separates two parts of a list or record at a depth. -/
def Style.lineBreak : Style → Nat → List Char
  | .compact, _ => []
  | .pretty, depth => '\n' :: List.replicate (2 * depth) ' '

def Style.colon : Style → List Char
  | .compact => [':']
  | .pretty => [':', ' ']

/-- A garbled value is written as the shortest garbled text, half a surrogate pair. -/
def garbledText : List Char := ['"', '\\', 'u', 'd', '8', '0', '0', '"']

mutual

def write (style : Style) (depth : Nat) : Data → List Char
  | .null => ['n', 'u', 'l', 'l']
  | .bool true => ['t', 'r', 'u', 'e']
  | .bool false => ['f', 'a', 'l', 's', 'e']
  | .int n => Text.signed n
  | .real m e => Text.signed m ++ 'e' :: Text.signed e
  | .text s => writeText s
  | .garbled => garbledText
  | .list [] => ['[', ']']
  | .list (d :: ds) =>
    '[' :: style.lineBreak (depth + 1) ++ write style (depth + 1) d ++
      writeItems style (depth + 1) ds ++ style.lineBreak depth ++ [']']
  | .record [] => ['\x7b', '\x7d']
  | .record (f :: fs) =>
    '\x7b' :: style.lineBreak (depth + 1) ++ writeField style (depth + 1) f ++
      writeFields style (depth + 1) fs ++ style.lineBreak depth ++ ['\x7d']

/-- The items of a list after its first, each behind a comma. -/
def writeItems (style : Style) (depth : Nat) : List Data → List Char
  | [] => []
  | d :: ds => ',' :: style.lineBreak depth ++ write style depth d ++ writeItems style depth ds

def writeField (style : Style) (depth : Nat) : String × Data → List Char
  | (name, d) => writeText name ++ style.colon ++ write style depth d

/-- The fields of a record after its first, each behind a comma. -/
def writeFields (style : Style) (depth : Nat) : List (String × Data) → List Char
  | [] => []
  | f :: fs =>
    ',' :: style.lineBreak depth ++ writeField style depth f ++ writeFields style depth fs

end

def compact (d : Data) : String := String.ofList (write .compact 0 d)

def pretty (d : Data) : String := String.ofList (write .pretty 0 d)

end LineagePorts.Json
