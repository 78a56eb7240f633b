/-! # Hexadecimal digits

Numbers are written with lower-case digits and read with digits of either case.
-/
namespace WalletCore.Text

/-- A natural in lower-case hexadecimal. -/
def hexadecimal (value : Nat) : List Char := Nat.toDigits 16 value

/-- The value of a hexadecimal digit in either case. -/
def hexValue? (char : Char) : Option Nat :=
  if '0' ≤ char ∧ char ≤ '9' then some (char.toNat - 48)
  else if 'a' ≤ char ∧ char ≤ 'f' then some (char.toNat - 87)
  else if 'A' ≤ char ∧ char ≤ 'F' then some (char.toNat - 55)
  else none

/-- The natural that at least one hexadecimal digit stands for. -/
def ofHexadecimal? (digits : List Char) : Option Nat :=
  if digits.isEmpty then none
  else (digits.mapM hexValue?).map (·.foldl (fun value digit => 16 * value + digit) 0)

end WalletCore.Text
