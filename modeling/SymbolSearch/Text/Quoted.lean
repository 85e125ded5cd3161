import SymbolSearch.Text.Property

/-!
# Quoted text and hexadecimal digits

`quoted` writes a text between double quotes for a reader of diagnostics: line
breaks, tabs, the quote and the backslash are written with a backslash, and
characters that do not show by themselves as `\u` with their code point in
braces. Those are the characters that do not print, the fillers, which are letters
without a shape, and the marks that merge with the character before them.
-/

set_option autoImplicit false

namespace SymbolSearch.Text

/-- The lowercase hexadecimal digit of `n`, for `n` below sixteen. -/
def hexDigit (n : Nat) : Char :=
  if n < 10 then Char.ofNat ('0'.toNat + n) else Char.ofNat ('a'.toNat + (n - 10))

/-- The value of a hexadecimal digit in either case. -/
def hexValue? (c : Char) : Option Nat :=
  if '0' ≤ c && c ≤ '9' then some (c.toNat - '0'.toNat)
  else if 'a' ≤ c && c ≤ 'f' then some (c.toNat - 'a'.toNat + 10)
  else if 'A' ≤ c && c ≤ 'F' then some (c.toNat - 'A'.toNat + 10)
  else none

/-- The hexadecimal digits of `n`, without leading zeros; one zero for zero. -/
def hexDigits (n : Nat) : List Char :=
  if n < 16 then [hexDigit n] else hexDigits (n / 16) ++ [hexDigit (n % 16)]
termination_by n
decreasing_by omega

/-- A Hangul filler: a letter that stands for a missing one and has no shape. -/
def isFiller (c : Char) : Bool :=
  c = '\u115f' || c = '\u1160' || c = '\u3164' || c = '\uffa0'

/-- A halfwidth voicing mark, which takes a place of its own in a line. -/
def isHalfwidthMark (c : Char) : Bool := c = '\uff9e' || c = '\uff9f'

/-- A character that does not show by itself. -/
def isHidden (c : Char) : Bool :=
  !isPrintable c || isFiller c || (isGraphemeExtend c && !isHalfwidthMark c)

/-- A character inside a quoted text. -/
def quotedChar (c : Char) : List Char :=
  if c = '\x00' then ['\\', '0']
  else if c = '\t' then ['\\', 't']
  else if c = '\r' then ['\\', 'r']
  else if c = '\n' then ['\\', 'n']
  else if c = '\\' || c = '"' then ['\\', c]
  else if isHidden c then
    ['\\', 'u', '\x7b'] ++ hexDigits c.toNat ++ ['\x7d']
  else [c]

/-- A text between double quotes. -/
def quoted (s : String) : String :=
  String.ofList ('"' :: s.toList.flatMap quotedChar ++ ['"'])

end SymbolSearch.Text
