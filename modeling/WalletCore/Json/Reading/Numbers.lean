import WalletCore.Json.Reading.Basic

/-! # Reading numbers

An integer that fits in 64 bits is kept as it is. Any other number becomes a binary64 number: as
many leading digits as fit in an unsigned word form its significand, and every digit of the
integral part after them counts for one power of ten.
-/
namespace WalletCore.Json

/-- Whether a character is a decimal digit. -/
def isDigit (char : Char) : Bool := char.isDigit

/-- The value of a decimal digit. -/
def digitValue (char : Char) : Nat := char.toNat - 48

/-- Append digits to a significand for as long as it stays below 2 ^ 64. The result holds the
digits that are left. -/
def absorb : Nat → List Char → Nat × List Char
  | significand, [] => (significand, [])
  | significand, digit :: digits =>
    let next := 10 * significand + digitValue digit
    if next < UInt64.size then absorb next digits else (significand, digit :: digits)

/-- The parts of a written number before it is rounded. -/
structure Literal where
  /-- Whether it has a minus sign. -/
  negative : Bool
  /-- The leading digits that fit in an unsigned word. -/
  significand : Nat
  /-- The power of ten of the last of them. -/
  exponent : Int
  /-- Whether it has neither a fraction nor an exponent and all its digits fit. -/
  whole : Bool

/-- The number that a literal stands for. Zero with a minus sign is not an integer. -/
def Literal.number (literal : Literal) : Except DecodeError Number :=
  let value : Int := if literal.negative then -literal.significand else literal.significand
  if inRange : literal.whole ∧ ¬(literal.negative ∧ literal.significand = 0) ∧
      IntegerRange value then
    .ok (.integer value inRange.2.2)
  else
    match Binary64.ofDecimal? literal.significand literal.exponent with
    | none => .error .numberOutOfRange
    | some magnitude => .ok (.float (if literal.negative then magnitude.neg else magnitude))

/-- The digits of an integral part: a lone zero, or digits that do not start with zero. -/
def readIntegral : Reader (List Char)
  | [] => .error (.endOfText .value)
  | first :: rest =>
    if first = '0' then
      match rest with
      | next :: _ => if isDigit next then .error .invalidNumber else .ok ([first], rest)
      | [] => .ok ([first], rest)
    else if isDigit first then .ok (first :: rest.takeWhile isDigit, rest.dropWhile isDigit)
    else .error .invalidNumber

/-- The digits of a fraction, after its point: at least one. -/
def readFraction (text : List Char) : Except DecodeError (List Char × List Char) :=
  match text with
  | [] => .error (.endOfText .value)
  | first :: rest =>
    if isDigit first then .ok (first :: rest.takeWhile isDigit, rest.dropWhile isDigit)
    else .error .invalidNumber

/-- The sign of an exponent, which may be missing: whether it is a minus. -/
def readSign (text : List Char) : Bool × List Char :=
  match text with
  | first :: rest =>
    if first = '-' then (true, rest) else if first = '+' then (false, rest) else (false, text)
  | [] => (false, [])

/-- An exponent, after its letter: an optional sign and at least one digit. -/
def readExponent : Reader Int := fun text =>
  let (negative, text) := readSign text
  match text with
  | [] => .error (.endOfText .value)
  | first :: rest =>
    if isDigit first then
      let value : Int :=
        (first :: rest.takeWhile isDigit).foldl (fun value digit => 10 * value + digitValue digit) 0
      .ok (if negative then -value else value, rest.dropWhile isDigit)
    else .error .invalidNumber

/-- A literal with a fraction that is there or not, before its exponent. -/
def readPointed (negative : Bool) (digits : List Char) : Reader Literal := fun text =>
  let (significand, left) := absorb 0 digits
  let plain : Literal := ⟨negative, significand, left.length, left.isEmpty⟩
  match text with
  | [] => .ok (plain, [])
  | char :: rest =>
    if char = '.' then do
      let (fraction, rest) ← readFraction rest
      let (significand, unread) := absorb significand fraction
      .ok (⟨negative, significand, plain.exponent - (fraction.length - unread.length : Nat), false⟩,
        rest)
    else .ok (plain, text)

/-- A literal with an exponent that is there or not. -/
def readScaled (literal : Literal) : Reader Literal := fun text =>
  match text with
  | [] => .ok (literal, [])
  | char :: rest =>
    if char = 'e' ∨ char = 'E' then do
      let (exponent, rest) ← readExponent rest
      .ok (⟨literal.negative, literal.significand, literal.exponent + exponent, false⟩, rest)
    else .ok (literal, text)

/-- A number that starts with a minus sign or a digit. -/
def readNumber : Reader Number := fun text => do
  let (negative, text) := match text with
    | char :: rest => if char = '-' then (true, rest) else (false, char :: rest)
    | [] => (false, [])
  let (digits, text) ← readIntegral text
  let (literal, text) ← readPointed negative digits text
  let (literal, text) ← readScaled literal text
  let number ← literal.number
  .ok (number, text)

/-- The text after a number that is not looked at. Its digits must be there but may be too many. -/
def skipNumber (text : List Char) : Except DecodeError (List Char) := do
  let text := match text with
    | char :: rest => if char = '-' then rest else char :: rest
    | [] => []
  let text ← match readIntegral text with
    | .ok (_, text) => .ok text
    | .error _ => .error .invalidNumber
  let text ← match text with
    | char :: rest =>
      if char = '.' then
        match readFraction rest with
        | .ok (_, text) => .ok text
        | .error _ => .error .invalidNumber
      else .ok text
    | [] => .ok text
  match text with
  | char :: rest =>
    if char = 'e' ∨ char = 'E' then
      match readExponent rest with
      | .ok (_, text) => .ok text
      | .error _ => .error .invalidNumber
    else .ok text
  | [] => .ok text

end WalletCore.Json
