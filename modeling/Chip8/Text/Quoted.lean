/-
  Quoted names, as error texts show them.

  A name stands between single quotes, or between double quotes if it has a
  single quote and no double one.  The quote in use and the backslash are
  escaped by a backslash; tab, line feed and carriage return by a letter; any
  other character that is not printable by its code point, in two, four or eight
  hexadecimal digits.
-/
import Chip8.Text.Number
import Chip8.Text.Printable

namespace Chip8.Text

/-- The quotation mark around a name. -/
def quoteMark (cs : List Char) : Char :=
  if cs.contains '\'' && !cs.contains '"' then '"' else '\''

/-- A code point in exactly `width` lower-case hexadecimal digits. -/
def codeDigits (width n : Nat) : List Char := (Nat.toDigits 16 n).leftpad width '0'

/-- A character that is not printable, by its code point. -/
def codeEscape (c : Char) : List Char :=
  if c.toNat < 0x100 then '\\' :: 'x' :: codeDigits 2 c.toNat
  else if c.toNat < 0x10000 then '\\' :: 'u' :: codeDigits 4 c.toNat
  else '\\' :: 'U' :: codeDigits 8 c.toNat

/-- A character inside a quoted name. -/
def quotedChar (mark c : Char) : List Char :=
  if c = mark || c = '\\' then ['\\', c]
  else if c = '\t' then ['\\', 't']
  else if c = '\n' then ['\\', 'n']
  else if c = '\r' then ['\\', 'r']
  else if isPrintable c then [c]
  else codeEscape c

/-- A name between quotation marks. -/
def quoted (s : String) : String :=
  let mark := quoteMark s.toList
  String.ofList (mark :: s.toList.flatMap (quotedChar mark) ++ [mark])

end Chip8.Text
