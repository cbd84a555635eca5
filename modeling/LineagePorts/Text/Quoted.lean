import LineagePorts.Text.Hexadecimal
import LineagePorts.Text.Unprintable

/-!
# Quoted text in diagnostics

A text between double quotes, as diagnostics show it: the quote and the backslash are escaped, the
usual controls by a letter, and every other unprintable character by its code point in braces.
-/

namespace LineagePorts.Text

def quoteChar (c : Char) : List Char :=
  if c = '"' then ['\\', '"']
  else if c = '\\' then ['\\', '\\']
  else if c = '\t' then ['\\', 't']
  else if c = '\n' then ['\\', 'n']
  else if c = '\r' then ['\\', 'r']
  else if c.toNat = 0 then ['\\', '0']
  else if isUnprintable c then ['\\', 'u', '\x7b'] ++ hexDigits c.toNat ++ ['\x7d']
  else [c]

def quoted (s : String) : String :=
  String.ofList ('"' :: s.toList.flatMap quoteChar ++ ['"'])

end LineagePorts.Text
