import WalletCore.Json.Printer
import WalletCore.Json.Reading.Values
import WalletCore.Proofs.Except
import WalletCore.Proofs.Text.Positional

/-! # Scalars are read as they were written

A string that is written is read as the same string, whatever characters are in it: each character
is read from what is written of it. An integer of 64 bits is read as the same integer, whatever
follows, as long as it is nothing that would go on with the number.
-/
namespace WalletCore

/-- Whether a number is an integer, or zero with a minus sign, which reads as such. -/
inductive Number.Whole : Number → Prop where
  /-- An integer. -/
  | integer (value : Int) (inRange : IntegerRange value) : Whole (.integer value inRange)
  /-- Zero with a minus sign. -/
  | minusZero : Whole (.float (.zero true))

namespace Json

/-- Whether a text does not begin with a character that goes on with a number. -/
def Delimited (text : List Char) : Prop :=
  ∀ char ∈ text.head?, isDigit char = false ∧ char ≠ '.' ∧ char ≠ 'e' ∧ char ≠ 'E'

/-! ## Numbers -/

/-- The digits in front of a delimited text are all that is taken. -/
theorem span_digits {digits rest : List Char} (all : ∀ digit ∈ digits, isDigit digit = true)
    (delimited : Delimited rest) :
    (digits ++ rest).takeWhile isDigit = digits ∧ (digits ++ rest).dropWhile isDigit = rest := by
  rw [List.takeWhile_append_of_pos all, List.dropWhile_append_of_pos all]
  cases rest with
  | nil => simp
  | cons char rest =>
    have other : isDigit char = false := (delimited char rfl).1
    simp [other]

/-- The digits of a natural are digits. -/
theorem isDigit_of_mem_digits {value : Nat} {digit : Char}
    (member : digit ∈ Number.digits value) : isDigit digit = true :=
  Nat.isDigit_of_mem_toDigits (by decide) (Nat.le_refl _) member

/-- A natural has a first digit. -/
theorem exists_digits_eq_cons (value : Nat) :
    ∃ first others, Number.digits value = first :: others ∧ isDigit first = true := by
  cases digits : Number.digits value with
  | nil => exact absurd digits Nat.toDigits_ne_nil
  | cons first others =>
    have member : first ∈ Number.digits value := by
      rw [digits]
      exact List.mem_cons_self
    exact ⟨first, others, rfl, isDigit_of_mem_digits member⟩

/-- The digits of a natural are an integral part. -/
theorem readIntegral_digits (value : Nat) {rest : List Char} (delimited : Delimited rest) :
    readIntegral (Number.digits value ++ rest) = .ok (Number.digits value, rest) := by
  have all : ∀ digit ∈ Number.digits value, isDigit digit = true := fun digit member =>
    isDigit_of_mem_digits member
  rcases Nat.eq_zero_or_pos value with rfl | positive
  · have zero : Number.digits 0 = ['0'] := Nat.toDigits_zero 10
    rw [zero]
    cases rest with
    | nil => rfl
    | cons char rest =>
      have other : isDigit char = false := (delimited char rfl).1
      simp [readIntegral, other]
  · have leading := Text.head?_toDigits (by decide : 1 < 10) (by decide) positive
    cases digits : Number.digits value with
    | nil => exact absurd digits Nat.toDigits_ne_nil
    | cons first others =>
      rw [digits] at all
      obtain ⟨digit, later⟩ := List.forall_mem_cons.1 all
      obtain ⟨taken, left⟩ := span_digits later delimited
      have notZero : first ≠ '0' := by
        intro zero
        change (Number.digits value).head? ≠ some '0' at leading
        rw [digits, zero] at leading
        exact leading rfl
      simp only [List.cons_append, readIntegral, notZero, ↓reduceIte, digit, taken, left]

/-- Appending digits makes no number smaller. -/
theorem le_ofDigitChars (digits : List Char) (start : Nat) :
    start ≤ Nat.ofDigitChars 10 digits start := by
  induction digits generalizing start with
  | nil => exact Nat.le_refl _
  | cons digit digits ih =>
    rw [Nat.ofDigitChars_cons]
    have further := ih (10 * start + (digit.toNat - '0'.toNat))
    omega

/-- Digits that stand for a word are all taken into the significand. -/
theorem absorb_eq {digits : List Char} {start : Nat}
    (small : Nat.ofDigitChars 10 digits start < UInt64.size) :
    absorb start digits = (Nat.ofDigitChars 10 digits start, []) := by
  induction digits generalizing start with
  | nil => rfl
  | cons digit digits ih =>
    rw [Nat.ofDigitChars_cons] at small ⊢
    have next : 10 * start + digitValue digit < UInt64.size :=
      Nat.lt_of_le_of_lt (le_ofDigitChars digits _) small
    rw [absorb, if_pos next]
    exact ih small

/-- The digits of a word are a literal with no fraction and no exponent. -/
theorem readPointed_digits {value : Nat} (small : value < UInt64.size) (negative : Bool)
    {rest : List Char} (delimited : Delimited rest) :
    readPointed negative (Number.digits value) rest = .ok (⟨negative, value, 0, true⟩, rest) := by
  have taken : absorb 0 (Number.digits value) = (value, []) := by
    have whole : Nat.ofDigitChars 10 (Number.digits value) 0 = value :=
      Nat.ofDigitChars_ten_toDigits
    rw [← whole] at small
    rw [absorb_eq small, whole]
  unfold readPointed
  rw [taken]
  cases rest with
  | nil => rfl
  | cons char rest =>
    have noPoint : char ≠ '.' := (delimited char rfl).2.1
    simp [noPoint]

/-- No exponent follows a literal in front of a delimited text. -/
theorem readScaled_delimited (literal : Literal) {rest : List Char} (delimited : Delimited rest) :
    readScaled literal rest = .ok (literal, rest) := by
  cases rest with
  | nil => rfl
  | cons char rest =>
    obtain ⟨-, -, small, capital⟩ := delimited char rfl
    simp [readScaled, small, capital]

/-- The first character of a number that is written. -/
theorem text_front {number : Number} (whole : number.Whole) :
    ∃ char rest, number.text = char :: rest ∧ (char = '-' ∨ isDigit char = true) := by
  cases whole with
  | minusZero => exact ⟨'-', ['0', '.', '0'], by decide +kernel, .inl rfl⟩
  | integer value inRange =>
    change ∃ char rest, Number.integerText value = char :: rest ∧ _
    unfold Number.integerText
    split
    · exact ⟨'-', _, rfl, .inl rfl⟩
    · obtain ⟨first, others, digits, digit⟩ := exists_digits_eq_cons value.natAbs
      exact ⟨first, others, digits, .inr digit⟩

/-- Digits with a sign or without one are read as the number of their literal. -/
theorem readNumber_digits (negative : Bool) {value : Nat} (small : value < UInt64.size)
    {rest : List Char} (delimited : Delimited rest) :
    readNumber ((if negative then ['-'] else []) ++ Number.digits value ++ rest) =
      (Literal.number ⟨negative, value, 0, true⟩).map (·, rest) := by
  have integral := readIntegral_digits value delimited
  have pointed := readPointed_digits small negative delimited
  have scaled := readScaled_delimited ⟨negative, value, 0, true⟩ delimited
  have finished : (do
      let integral ← readIntegral (Number.digits value ++ rest)
      let pointed ← readPointed negative integral.1 integral.2
      let scaled ← readScaled pointed.1 pointed.2
      let number ← scaled.1.number
      .ok (number, scaled.2)) =
        (Literal.number ⟨negative, value, 0, true⟩).map (·, rest) := by
    simp only [integral, pointed, scaled, ok_bind]
    cases Literal.number ⟨negative, value, 0, true⟩ <;> rfl
  cases negative with
  | true => exact finished
  | false =>
    rw [← finished]
    obtain ⟨first, others, digits, digit⟩ := exists_digits_eq_cons value
    have noSign : first ≠ '-' := by
      rintro rfl
      contradiction
    simp [readNumber, digits, noSign]

/-- A literal without a fraction and an exponent is an integer that is in range, except for zero
with a minus sign. -/
theorem number_whole {negative : Bool} {significand : Nat} {value : Int}
    (inRange : IntegerRange value)
    (signed : (if negative then -(significand : Int) else significand) = value)
    (notMinusZero : ¬ (negative = true ∧ significand = 0)) :
    Literal.number ⟨negative, significand, 0, true⟩ = .ok (.integer value inRange) := by
  subst signed
  exact dif_pos ⟨rfl, notMinusZero, inRange⟩

/-- Zero with a minus sign that is written is read again. -/
theorem readNumber_minusZero {rest : List Char} (delimited : Delimited rest) :
    readNumber ((Number.float (.zero true)).text ++ rest) =
      .ok (.float (.zero true), rest) := by
  have text : (Number.float (.zero true)).text = ['-', '0', '.', '0'] := by decide +kernel
  obtain ⟨taken, left⟩ := span_digits (List.forall_mem_nil _) delimited
  have fraction : readFraction ('0' :: rest) = .ok (['0'], rest) := by
    change Except.ok ('0' :: rest.takeWhile isDigit, rest.dropWhile isDigit) = _
    rw [List.nil_append] at taken left
    rw [taken, left]
  have pointed : readPointed true ['0'] ('.' :: '0' :: rest) =
      .ok (⟨true, 0, -1, false⟩, rest) := by
    simp only [readPointed, ↓reduceIte, fraction, ok_bind]
    rfl
  have magnitude : Binary64.ofDecimal? 0 (-1) = some (.zero false) := by decide +kernel
  have literal : Literal.number ⟨true, 0, -1, false⟩ = .ok (.float (.zero true)) := by
    simp [Literal.number, magnitude, Binary64.neg, Binary64.zero]
  rw [text]
  change (do
    let pointed ← readPointed true ['0'] ('.' :: '0' :: rest)
    let scaled ← readScaled pointed.1 pointed.2
    let number ← scaled.1.number
    .ok (number, scaled.2)) = _
  simp only [pointed, ok_bind, readScaled_delimited _ delimited, literal]

/-- An integer that is written is read again. -/
theorem readNumber_integer {value : Int} (inRange : IntegerRange value) {rest : List Char}
    (delimited : Delimited rest) :
    readNumber ((Number.integer value inRange).text ++ rest) =
      .ok (.integer value inRange, rest) := by
  have size : UInt64.size = 18446744073709551616 := rfl
  have small : value.natAbs < UInt64.size := by
    unfold IntegerRange at inRange
    omega
  by_cases negative : value < 0
  · have read := readNumber_digits true small delimited
    have signed : -(value.natAbs : Int) = value := by omega
    have notZero : value.natAbs ≠ 0 := by omega
    have literal : Literal.number ⟨true, value.natAbs, 0, true⟩ = .ok (.integer value inRange) :=
      number_whole inRange signed fun both => notZero both.2
    have text : (Number.integer value inRange).text ++ rest =
        ['-'] ++ Number.digits value.natAbs ++ rest := by
      simp [Number.text, Number.integerText, negative]
    rw [literal] at read
    rw [text]
    exact read
  · have read := readNumber_digits false small delimited
    have unsigned : (value.natAbs : Int) = value := by omega
    have literal : Literal.number ⟨false, value.natAbs, 0, true⟩ = .ok (.integer value inRange) :=
      number_whole inRange unsigned fun both => Bool.false_ne_true both.1
    have text : (Number.integer value inRange).text ++ rest =
        [] ++ Number.digits value.natAbs ++ rest := by
      simp [Number.text, Number.integerText, negative]
    rw [literal] at read
    rw [text]
    exact read

/-- A number that is written is read again. -/
theorem readNumber_text {number : Number} (whole : number.Whole) {rest : List Char}
    (delimited : Delimited rest) : readNumber (number.text ++ rest) = .ok (number, rest) := by
  cases whole with
  | minusZero => exact readNumber_minusZero delimited
  | integer value inRange => exact readNumber_integer inRange delimited

/-! ## Strings -/

/-- A hexadecimal digit that is written is read again. -/
theorem hexValue?_hexDigit (value : Nat) : Text.hexValue? (hexDigit value) = some (value % 16) := by
  have each : ∀ digit < 16, Text.hexValue? (Nat.digitChar digit) = some digit := by decide
  exact each (value % 16) (Nat.mod_lt _ (by decide))

/-- An escape by number of a control character is read as this character. -/
theorem readEscape_control {char : Char} (control : char.toNat < 0x20) (rest : List Char) :
    readEscape ('u' :: '0' :: '0' :: hexDigit (char.toNat / 16) :: hexDigit char.toNat :: rest) =
      .ok (char, rest) := by
  have high : char.toNat / 16 % 16 = char.toNat / 16 := by omega
  have whole : 16 * (char.toNat / 16) + char.toNat % 16 = char.toNat := by omega
  have zero : Text.hexValue? '0' = some 0 := by decide
  have unit : readHex4 ('0' :: '0' :: hexDigit (char.toNat / 16) :: hexDigit char.toNat :: rest) =
      .ok (char.toNat, rest) := by
    simp [readHex4, zero, hexValue?_hexDigit, high, whole]
  have notLow : ¬ (0xdc00 ≤ char.toNat ∧ char.toNat ≤ 0xdfff) := by omega
  have notHigh : ¬ (0xd800 ≤ char.toNat ∧ char.toNat ≤ 0xdbff) := by omega
  simp only [readEscape, ↓reduceIte, readNumberedEscape, unit, ok_bind, notLow, notHigh,
    Char.ofNat_toNat]

/-- A character is read from what is written of it. -/
theorem readCharacters_escape (char : Char) (length : Nat) (done rest : List Char) :
    readCharacters (length + 1) done (escape char ++ rest) =
      readCharacters length (char :: done) rest := by
  unfold escape
  by_cases short : char ∈ ['"', '\\', '\x08', '\x0c', '\n', '\r', '\t']
  · simp only [List.mem_cons, List.not_mem_nil, or_false] at short
    rcases short with rfl | rfl | rfl | rfl | rfl | rfl | rfl <;> rfl
  · simp only [List.mem_cons, List.not_mem_nil, or_false, not_or] at short
    obtain ⟨quote, backslash, backspace, feed, newline, carriageReturn, tab⟩ := short
    simp only [quote, backslash, backspace, feed, newline, carriageReturn, tab, ↓reduceIte]
    split
    · rename_i control
      have escaped := readEscape_control control rest
      simp only [List.cons_append, List.nil_append, readCharacters, escaped]
      simp
    · rename_i plain
      simp only [List.cons_append, List.nil_append, readCharacters, quote, backslash, plain,
        ↓reduceIte]

/-- The characters of a string are read from what is written of them. -/
theorem readCharacters_flatMap (characters : List Char) {length : Nat}
    (enough : characters.length < length) (done rest : List Char) :
    readCharacters length done (characters.flatMap escape ++ '"' :: rest) =
      .ok (done.reverse ++ characters, rest) := by
  induction characters generalizing length done with
  | nil =>
    obtain ⟨length, rfl⟩ := Nat.exists_eq_add_of_lt enough
    simp [readCharacters]
  | cons char characters ih =>
    cases length with
    | zero => exact absurd enough (Nat.not_lt_zero _)
    | succ length =>
      have fewer : characters.length < length := Nat.lt_of_succ_lt_succ enough
      rw [List.flatMap_cons, List.append_assoc, readCharacters_escape, ih fewer]
      simp

/-- A string is read from what is written of it. -/
theorem readString_escape {text : String} {length : Nat} (enough : text.toList.length < length)
    (rest : List Char) :
    readString length (text.toList.flatMap escape ++ '"' :: rest) = .ok (text, rest) := by
  simp [readString, readCharacters_flatMap text.toList enough]

end Json

end WalletCore
