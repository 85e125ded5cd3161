import SymbolSearch.Text.Quoted

/-!
# Writing JSON

Texts are written with the shortest escapes: a backslash before quotes and
backslashes, a letter for the common controls and four hexadecimal digits for the
others. Everything else stands for itself.
-/

set_option autoImplicit false

namespace SymbolSearch.Json

/-- The written form of one character of a text. -/
def writeChar (c : Char) : List Char :=
  if c = '"' then ['\\', '"']
  else if c = '\\' then ['\\', '\\']
  else if c = '\x08' then ['\\', 'b']
  else if c = '\x0c' then ['\\', 'f']
  else if c = '\n' then ['\\', 'n']
  else if c = '\r' then ['\\', 'r']
  else if c = '\t' then ['\\', 't']
  else if c < ' ' then
    ['\\', 'u', '0', '0', Text.hexDigit (c.toNat / 16), Text.hexDigit (c.toNat % 16)]
  else [c]

/-- A text between quotes. -/
def writeText (s : String) : String :=
  String.ofList ('"' :: s.toList.flatMap writeChar ++ ['"'])

/-- A truth value. -/
def writeBool (b : Bool) : String := if b then "true" else "false"

/-- A value, or `null`. -/
def writeOption {α : Type} (write : α → String) : Option α → String
  | none => "null"
  | some a => write a

/-- An object with one member to a line, given the names and written values. -/
def writeObject (members : List (String × String)) : String :=
  "\x7b\n" ++ String.intercalate ",\n"
    (members.map fun member => "  " ++ writeText member.1 ++ ": " ++ member.2) ++ "\n\x7d"

end SymbolSearch.Json
