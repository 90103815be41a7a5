/-
# Rewind.Text.Numeral -- numbers as texts

Decimal numbers have no padding and a minus sign where they are negative;
hexadecimal ones are lower case behind `0x`.
-/

namespace Rewind.Text

set_option autoImplicit false

def decimal (n : Nat) : String :=
  String.ofList (Nat.toDigits 10 n)

/-- The decimal digits of an integer, behind a minus sign where it is negative. -/
def signedDecimal (n : Int) : String :=
  if n < 0 then "-" ++ decimal n.natAbs else decimal n.natAbs

def hexDigits (n : Nat) : String :=
  String.ofList (Nat.toDigits 16 n)

/-- Hexadecimal digits behind `0x`. -/
def hex (n : Nat) : String :=
  "0x" ++ hexDigits n

/-- Hexadecimal digits behind `0x`, filled with zeros to `width` digits. -/
def hexFilled (width n : Nat) : String :=
  let digits := Nat.toDigits 16 n
  "0x" ++ String.ofList (List.replicate (width - digits.length) '0' ++ digits)

end Rewind.Text
