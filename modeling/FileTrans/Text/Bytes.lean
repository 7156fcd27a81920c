import Mathlib.Data.Nat.Digits.Defs

/-!
# Byte strings and decimal numerals

Strings, buffers and file contents are all finite byte sequences.  Literals
are ASCII, and numbers are written in decimal with the most significant digit
first and no leading zero.
-/

namespace FileTrans

/-- A finite byte sequence. -/
abbrev Bytes := List UInt8

-- What holds of each byte of a text is decided along the text, not for all 256 bytes.
attribute [instance (2000)] List.decidableBAll List.decidableBEx Option.decidableForallMem
  Option.decidableExistsMem

namespace Text

/-- The bytes of an ASCII literal. -/
def ascii (literal : String) : Bytes :=
  literal.toList.map Char.toUInt8

/-- The decimal digit with value `digit`, for `digit < 10`. -/
def decimalDigit (digit : Nat) : UInt8 :=
  UInt8.ofNat (0x30 + digit)

/-- Decimal numeral of a natural number. -/
def decimal (number : Nat) : Bytes :=
  if number = 0 then [0x30] else ((Nat.digits 10 number).map decimalDigit).reverse

/-- Decimal numeral of an integer. -/
def decimalInt (number : Int) : Bytes :=
  if number < 0 then 0x2d :: decimal number.natAbs else decimal number.natAbs

end Text

end FileTrans
