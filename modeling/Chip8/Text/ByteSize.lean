/-
  Sizes in binary units, `5.33 EiB`.

  * `scaled n unit` is the quotient with three digits as long as it is below
    1000, and as a whole number from there on;
  * `byteSize n` takes the greatest unit of which there is at least one.
-/
import Chip8.Text.Number

namespace Chip8.Text

/-- The binary units, each 1024 times the one before. -/
def byteUnits : List String := ["bytes", "KiB", "MiB", "GiB", "TiB", "PiB", "EiB"]

/-- A quotient with three digits, the point staying behind a third one; whole
    from 1000 on. -/
def scaled (n unit : Nat) : List Char :=
  let inHundredths := roundDiv (100 * n) unit
  let inTenths := roundDiv (10 * n) unit
  if inHundredths < 1000 then twoPlaces inHundredths
  else if inTenths < 1000 then digits (inTenths / 10) ++ '.' :: digits (inTenths % 10)
  else digits (roundDiv n unit) ++ ['.']

/-- The unit for a size, by its place in the list; a size that rounds to 1024 of a
    unit is one of the next. -/
def unitIndex (n : Nat) : Nat :=
  let k := Nat.log2 n / 10
  min (if roundDiv n (1 <<< (10 * k)) = 1024 then k + 1 else k) (byteUnits.length - 1)

/-- A number of bytes in the greatest unit. -/
def byteSize (n : Nat) : String :=
  let k := unitIndex n
  let amount := if k = 0 then digits n else scaled n (1 <<< (10 * k))
  String.ofList amount ++ " " ++ byteUnits[k]?.getD ""

/-! ## Examples -/

example : byteSize 512 = "512 bytes" ∧ byteSize 1048575 = "1.00 MiB" := by decide +kernel

example : byteSize 6144000000000000000 = "5.33 EiB" := by decide +kernel

end Chip8.Text
