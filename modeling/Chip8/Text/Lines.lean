/-
  The lines of a text.

  A line ends at a line feed, a carriage return or both in this order, a vertical
  tab, a form feed, one of the separators U+001C to U+001E, the next-line control
  U+0085, and the line and paragraph separators U+2028 and U+2029.  Behind the
  last line end there is no further line, unless some text follows.
-/

namespace Chip8.Text

/-- Whether a character ends a line. -/
def isLineEnd (c : Char) : Bool :=
  let n := c.toNat
  (0x0A ≤ n && n ≤ 0x0D) || (0x1C ≤ n && n ≤ 0x1E) || n == 0x85 || n == 0x2028 || n == 0x2029

/-- The lines of a text, without their ends. -/
def lines : List Char → List (List Char)
  | [] => []
  | '\r' :: '\n' :: rest => [] :: lines rest
  | c :: rest =>
    if isLineEnd c then [] :: lines rest
    else
      match lines rest with
      | [] => [[c]]
      | l :: ls => (c :: l) :: ls

end Chip8.Text
