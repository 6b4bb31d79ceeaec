/-
  Numbers as text: upper-case hexadecimal of a least width, signed decimals,
  decimals with thousands groups, and hundredths with a decimal point.

  Texts are lists of characters, so that a line is a concatenation of fields
  and facts about it go by induction on lists.

  * `hexDigits n` are the base-16 digits of `n`, most significant first;
  * `hex w v` is `v` in at least `w` places, zeros filling up behind the sign;
  * `decimal v` is `v` in base 10, and `grouped v` the same with a comma before
    every third digit from the right;
  * `hundredths w v` is `v / 100` with two decimals in at least `w` places; the
    quotient is held with 53 significant bits.
-/
import Chip8.Text.Rounding

namespace Chip8.Text

/-! ## Hexadecimal -/

/-- The upper-case hexadecimal digit of a number below 16. -/
def hexDigit (d : Nat) : Char :=
  if d < 10 then Char.ofNat (48 + d) else Char.ofNat (55 + d)

/-- The base-16 digits of `n`, most significant first; zero has one digit. -/
def hexDigits (n : Nat) : List Char :=
  if n < 16 then [hexDigit n] else hexDigits (n / 16) ++ [hexDigit (n % 16)]
termination_by n

/-- `v` in hexadecimal with at least `width` characters: the sign of a negative
    number comes first and zeros fill up behind it. -/
def hex (width : Nat) : Int → List Char
  | .ofNat n => (hexDigits n).leftpad width '0'
  | .negSucc n => '-' :: (hexDigits (n + 1)).leftpad (width - 1) '0'

/-- A byte in two lower-case digits. -/
def hexByte (b : UInt8) : List Char :=
  [Nat.digitChar (b.toNat / 16), Nat.digitChar (b.toNat % 16)]

/-! ## Decimal -/

/-- The decimal digits of `n`, most significant first. -/
def digits (n : Nat) : List Char := Nat.toDigits 10 n

/-- `v` in decimal, a minus sign before a negative number. -/
def decimal : Int → List Char
  | .ofNat n => digits n
  | .negSucc n => '-' :: digits (n + 1)

/-- `decimal` as a string. -/
def int (v : Int) : String := String.ofList (decimal v)

/-- Digits given least significant first, with a comma after every third one
    that another digit follows. -/
def groupReversed : List Char → List Char
  | a :: b :: c :: d :: rest => a :: b :: c :: ',' :: groupReversed (d :: rest)
  | ds => ds

/-- `v` in decimal with the digits in groups of three. -/
def grouped : Int → List Char
  | .ofNat n => (groupReversed (digits n).reverse).reverse
  | .negSucc n => '-' :: (groupReversed (digits (n + 1)).reverse).reverse

/-! ## Hundredths -/

/-- `n / 100` with exactly two digits behind the point. -/
def twoPlaces (n : Nat) : List Char :=
  digits (n / 100) ++ '.' :: (digits (n % 100)).leftpad 2 '0'

/-- `v / 100`, as it is held, with two digits behind the point, right-justified in
    `width` places. -/
def hundredths (width : Nat) (v : Int) : List Char :=
  (match v with
    | .ofNat n => twoPlaces (heldHundredths n)
    | .negSucc n => '-' :: twoPlaces (heldHundredths (n + 1))).leftpad width ' '

end Chip8.Text
