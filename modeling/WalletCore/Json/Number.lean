import WalletCore.Decimal.Shortest

/-! # JSON numbers

A number is an integer of 64 bits, signed or unsigned, or a finite binary64 number. An integer is
written by its digits. A binary64 number is written by its shortest decimal and always shows a
point or an exponent, so the two kinds never share a written form.
-/
namespace WalletCore

/-- Integers that fit in 64 bits, with or without a sign: from - 2 ^ 63 to below 2 ^ 64. -/
abbrev IntegerRange (value : Int) : Prop :=
  -9223372036854775808 ≤ value ∧ value < 18446744073709551616

/-- A number of a JSON value. -/
inductive Number where
  /-- An integer of 64 bits. -/
  | integer (value : Int) (inRange : IntegerRange value)
  /-- Any other number. -/
  | float (value : Binary64)
deriving DecidableEq

namespace Number

/-- The number of a word. -/
def ofUInt64 (word : UInt64) : Number :=
  .integer word.toNat ⟨by omega, by have := word.toNat_lt; omega⟩

/-- The number of a signed word. -/
def ofInt64 (word : Int64) : Number :=
  .integer word.toInt ⟨word.le_toInt, by have := word.toInt_lt; omega⟩

/-- The decimal digits of a natural. -/
def digits (value : Nat) : List Char := Nat.toDigits 10 value

/-- An integer: a minus sign if it is negative, and its digits. -/
def integerText (value : Int) : List Char :=
  if value < 0 then '-' :: digits value.natAbs else digits value.natAbs

/-- A positive decimal without zeros at its end: positional if its first digit stands for a power
of ten from -5 to 15, and otherwise with an exponent after one leading digit. -/
def decimalText (decimal : Decimal.Scaled) : List Char :=
  let text := digits decimal.digits
  let leading := decimal.leading
  if leading < -5 ∨ 15 < leading then
    let exponent := (if leading < 0 then '-' else '+') :: digits leading.natAbs
    match text with
    | [] => []
    | [digit] => digit :: 'e' :: exponent
    | digit :: others => digit :: '.' :: others ++ 'e' :: exponent
  else if 0 ≤ decimal.exponent then
    text ++ List.replicate decimal.exponent.toNat '0' ++ ['.', '0']
  else if 0 ≤ leading then
    text.take (leading.toNat + 1) ++ '.' :: text.drop (leading.toNat + 1)
  else '0' :: '.' :: List.replicate (leading.natAbs - 1) '0' ++ text

/-- A binary64 number. -/
def floatText (value : Binary64) : List Char :=
  let magnitude :=
    if value.isZero then ['0', '.', '0'] else decimalText (Decimal.shortest value)
  if value.negative then '-' :: magnitude else magnitude

/-- The written form of a number. -/
def text : Number → List Char
  | .integer value _ => integerText value
  | .float value => floatText value

end Number

end WalletCore
