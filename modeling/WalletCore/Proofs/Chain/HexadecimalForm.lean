import WalletCore.Proofs.Chain.Grammar
import WalletCore.Proofs.Chain.Id

/-! # The hexadecimal form of a chain id

Digits without capital letters are read as the chain whose id they make, unless a zero stands in
front of others (`ofHex_eq_ok_iff_valueOf`). So they are read exactly if their number fits into a
word (`Canonical`), and are then the digits that this number is written with: writing and reading
are inverse to each other (`hexadecimal_forms_inverse`). The number is that of the positions of the
digits (`valueOf`), however many there are; nothing is lost beyond the end of a word.
-/
namespace WalletCore.Chain.Id

/-- Whether a character is a hexadecimal digit and no capital letter. -/
def SmallDigit (char : Char) : Prop := Digit char ∨ ('a' ≤ char ∧ char ≤ 'f')

/-- The value of a digit: the letters follow the decimal digits. -/
def digitValue (char : Char) : Nat :=
  if char ≤ '9' then char.toNat - '0'.toNat else char.toNat - 'a'.toNat + 10

/-- The number that digits make: a digit counts sixteen times as much as the one behind it. -/
def valueOf : List Char → Nat
  | [] => 0
  | digit :: rest => digitValue digit * Nat.pow 16 rest.length + valueOf rest

/-- Whether digits are those that a chain id is written with. -/
structure Canonical (digits : List Char) : Prop where
  /-- There is a digit. -/
  nonempty : digits ≠ []
  /-- A zero in front stands alone. -/
  leading : digits.head? = some '0' → digits = ['0']
  /-- The number has 64 bits. -/
  bounded : valueOf digits < UInt64.size

instance : DecidablePred SmallDigit := fun char =>
  inferInstanceAs (Decidable (('0' ≤ char ∧ char ≤ '9') ∨ ('a' ≤ char ∧ char ≤ 'f')))

/-- A digit is the written form of its value, and no sign and no capital letter. -/
theorem SmallDigit.written {char : Char} (digit : SmallDigit char) :
    digitValue char < 16 ∧ Nat.digitChar (digitValue char) = char ∧
      char ≠ '+' ∧ char.isUpper = false := by
  have known : ∀ code < 103, SmallDigit (Char.ofNat code) →
      digitValue (Char.ofNat code) < 16 ∧
        Nat.digitChar (digitValue (Char.ofNat code)) = Char.ofNat code ∧
        Char.ofNat code ≠ '+' ∧ (Char.ofNat code).isUpper = false := by
    decide +kernel
  have early : char.toNat < 103 := by
    rcases digit with ⟨-, most⟩ | ⟨-, most⟩
    · have nine : char.toNat ≤ 57 := most
      omega
    · have last : char.toNat ≤ 102 := most
      omega
  have found := known char.toNat early
  rw [Char.ofNat_toNat] at found
  exact found digit

/-- The number that digits make with a number in front of them. -/
theorem behind_eq (digits : List Char) (start : Nat) :
    Text.behind 16 (digits.map digitValue) start =
      start * Nat.pow 16 digits.length + valueOf digits := by
  induction digits generalizing start with
  | nil => simp [Text.behind, valueOf]
  | cons digit rest ih =>
    have next : Text.behind 16 ((digit :: rest).map digitValue) start =
        Text.behind 16 (rest.map digitValue) (16 * start + digitValue digit) := rfl
    have power : Nat.pow 16 (rest.length + 1) = Nat.pow 16 rest.length * 16 := rfl
    rw [next, ih, valueOf, List.length_cons, power]
    grind

/-- Digits are the written form of the number that they make, with zeros in front. -/
theorem exists_zeros_valueOf {digits : List Char} (small : ∀ char ∈ digits, SmallDigit char)
    (nonempty : digits ≠ []) :
    ∃ zeros, digits = List.replicate zeros '0' ++ Text.hexadecimal (valueOf digits) := by
  have below : ∀ value ∈ digits.map digitValue, value < 16 := by
    intro value member
    obtain ⟨char, among, rfl⟩ := List.mem_map.1 member
    exact (small char among).written.1
  have written : (digits.map digitValue).map Nat.digitChar = digits := by
    have each : ∀ char ∈ digits, (Nat.digitChar ∘ digitValue) char = id char :=
      fun char among => (small char among).written.2.1
    rw [List.map_map, List.map_congr_left each, List.map_id]
  have made : Text.behind 16 (digits.map digitValue) 0 = valueOf digits := by
    rw [behind_eq, Nat.zero_mul, Nat.zero_add]
  have values : digits.map digitValue ≠ [] := fun empty => nonempty (List.map_eq_nil_iff.1 empty)
  obtain ⟨zeros, same⟩ := Text.exists_zeros (by decide : 1 < 16) below values
  rw [written, made] at same
  exact ⟨zeros, same⟩

/-- Digits stand for the number that they make. -/
theorem ofHexadecimal?_eq_some_valueOf {digits : List Char}
    (small : ∀ char ∈ digits, SmallDigit char) (nonempty : digits ≠ []) :
    Text.ofHexadecimal? digits = some (valueOf digits) := by
  obtain ⟨zeros, padded⟩ := exists_zeros_valueOf small nonempty
  have lower : digits.map Char.toLower = digits :=
    Text.map_toLower_of_isUpper_eq_false fun char among => (small char among).written.2.2.2
  exact Text.ofHexadecimal?_eq_some_iff.2 ⟨zeros, lower.trans padded⟩

/-- Digits without a sign stand for the chain whose id they make. -/
theorem ofDigits?_eq_some_iff_valueOf {digits : List Char} {chain : Id}
    (small : ∀ char ∈ digits, SmallDigit char) :
    ofDigits? digits = some chain ↔ digits ≠ [] ∧ valueOf digits = chain.toNat := by
  unfold ofDigits?
  split
  · rename_i rest
    obtain ⟨-, -, unsigned, -⟩ := (small '+' List.mem_cons_self).written
    exact absurd rfl unsigned
  · dsimp only
    by_cases empty : digits = []
    · rw [empty]
      exact iff_of_false nofun fun both => both.1 rfl
    · rw [ofHexadecimal?_eq_some_valueOf small empty, Option.bind_some, ofNat_eq_iff]
      exact (and_iff_right empty).symm

/-- Digits without capital letters are read as the chain whose id they make, unless a zero stands in
front of others. -/
theorem ofHex_eq_ok_iff_valueOf {digits : List Char} {chain : Id}
    (small : ∀ char ∈ digits, SmallDigit char) :
    ofHex (String.ofList ('0' :: 'x' :: digits)) = .ok chain ↔
      digits ≠ [] ∧ (digits.head? = some '0' → digits = ['0']) ∧
        valueOf digits = chain.toNat := by
  rw [ofHex_ofList_eq_ok_iff, ofDigits?_eq_some_iff_valueOf small]
  have leading : ¬ (1 < digits.length ∧ digits.head? = some '0') ↔
      (digits.head? = some '0' → digits = ['0']) := by
    constructor
    · intro short zero
      obtain ⟨rest, starts⟩ := List.head?_eq_some_iff.1 zero
      have few : digits.length ≤ 1 := by
        rcases Nat.lt_or_ge 1 digits.length with long | few
        · exact absurd ⟨long, zero⟩ short
        · exact few
      rw [starts, List.length_cons] at few
      rw [starts, List.eq_nil_of_length_eq_zero (show rest.length = 0 by omega)]
    · intro alone both
      obtain ⟨long, zero⟩ := both
      rw [alone zero] at long
      exact absurd long (by decide)
  rw [leading]
  constructor
  · intro ⟨alone, nonempty, made⟩
    exact ⟨nonempty, alone, made⟩
  · intro ⟨nonempty, alone, made⟩
    exact ⟨alone, nonempty, made⟩

/-- Digits are read as some chain id exactly if they are those that one is written with. -/
theorem exists_ofHex_iff {digits : List Char} (small : ∀ char ∈ digits, SmallDigit char) :
    (∃ chain, ofHex (String.ofList ('0' :: 'x' :: digits)) = .ok chain) ↔ Canonical digits := by
  constructor
  · intro ⟨chain, read⟩
    obtain ⟨nonempty, alone, made⟩ := (ofHex_eq_ok_iff_valueOf small).1 read
    have bounded : valueOf digits < UInt64.size := by
      rw [made]
      exact chain.toNat_lt_size
    exact ⟨nonempty, alone, bounded⟩
  · intro canonical
    have word : (UInt64.ofNat (valueOf digits)).toNat = valueOf digits :=
      UInt64.toNat_ofNat_of_lt' canonical.bounded
    exact ⟨UInt64.ofNat (valueOf digits),
      (ofHex_eq_ok_iff_valueOf small).2 ⟨canonical.nonempty, canonical.leading, word.symm⟩⟩

/-- What is written behind the marker is read, or the whole text is named. -/
theorem ofHex_eq_error {digits : List Char}
    (refused : ¬ ∃ chain, ofHex (String.ofList ('0' :: 'x' :: digits)) = .ok chain) :
    ofHex (String.ofList ('0' :: 'x' :: digits)) =
      .error (.invalidChainId (.malformed (String.ofList ('0' :: 'x' :: digits)))) := by
  unfold ofHex at refused ⊢
  rw [String.toList_ofList] at refused ⊢
  simp only at refused ⊢
  split
  · rfl
  · rename_i wellFormed
    rw [if_neg wellFormed] at refused
    cases found : ofDigits? digits with
    | none => rfl
    | some chain =>
      rw [found] at refused
      exact absurd ⟨chain, rfl⟩ refused

/-- A chain id is read from its hexadecimal form. -/
theorem ofHex_toHex (chain : Id) : ofHex chain.toHex = .ok chain := by
  have lower : (Text.hexadecimal chain.toNat).map Char.toLower = Text.hexadecimal chain.toNat :=
    Text.map_toLower_of_isUpper_eq_false fun char member =>
      (plain_iff.1 (plain_toHex chain) char member).2
  exact ofHex_eq_ok_iff.2 (.bare lower)

/-- What is read from digits without capital letters is written with these digits. -/
theorem toHex_of_ofHex {digits : List Char} {chain : Id}
    (small : ∀ char ∈ digits, SmallDigit char)
    (read : ofHex (String.ofList ('0' :: 'x' :: digits)) = .ok chain) :
    chain.toHex = String.ofList ('0' :: 'x' :: digits) := by
  have plain : Plain (String.ofList ('0' :: 'x' :: digits)) :=
    plain_iff.2 fun char among => (small char among).written.2.2
  exact ((ofHex_eq_ok_iff.1 read).eq_toHex_iff.2 plain).symm

/-- No chain id is written with more than sixteen digits. -/
theorem Canonical.length_le {digits : List Char} (small : ∀ char ∈ digits, SmallDigit char)
    (canonical : Canonical digits) : digits.length ≤ 16 := by
  obtain ⟨chain, read⟩ := (exists_ofHex_iff small).2 canonical
  have written : Text.hexadecimal chain.toNat = digits := by
    have same := congrArg String.toList (toHex_of_ofHex small read)
    rw [toHex, String.toList_ofList, String.toList_ofList] at same
    exact (List.cons.inj (List.cons.inj same).2).2
  rw [← written]
  exact (Nat.length_toDigits_le_iff (by decide) (by decide)).2 chain.toNat_lt_size

/-- Writing and reading are inverse to each other: a chain id is read from its hexadecimal form, and
digits without capital letters are read exactly if there are any, no zero stands in front of others
and the number that they make fits into a word. It is this number that is read, and it is written
with these digits. All other digits are refused, among them any that are more than sixteen. -/
theorem hexadecimal_forms_inverse (chain : Id) (digits : List Char)
    (small : ∀ char ∈ digits, SmallDigit char) :
    let text := String.ofList ('0' :: 'x' :: digits)
    ofHex chain.toHex = .ok chain ∧
      ((∃ read, ofHex text = .ok read) ↔ Canonical digits) ∧
      (∀ read, ofHex text = .ok read → read.toNat = valueOf digits ∧ read.toHex = text) ∧
      (¬ Canonical digits → ofHex text = .error (.invalidChainId (.malformed text))) ∧
      (16 < digits.length → ¬ Canonical digits) := by
  intro text
  refine ⟨ofHex_toHex chain, exists_ofHex_iff small, ?_, ?_, ?_⟩
  · intro read found
    obtain ⟨-, -, made⟩ := (ofHex_eq_ok_iff_valueOf small).1 found
    exact ⟨made.symm, toHex_of_ofHex small found⟩
  · intro other
    exact ofHex_eq_error (mt (exists_ofHex_iff small).1 other)
  · intro long canonical
    have short := canonical.length_le small
    omega

/-- The last chain id is read from sixteen digits, and a seventeenth digit is refused. -/
theorem hexadecimal_forms_inverse_at_last_chain :
    ofHex "0xffffffffffffffff" = .ok 18446744073709551615 ∧
      (∀ char ∈ List.replicate 16 'f', SmallDigit char) ∧ Canonical (List.replicate 16 'f') ∧
      ¬ Canonical ('1' :: List.replicate 16 '0') ∧
      ofHex "0x10000000000000000" =
        .error (.invalidChainId (.malformed "0x10000000000000000")) := by
  have letter : SmallDigit 'f' := by decide
  have zero : SmallDigit '0' := by decide
  have one : SmallDigit '1' := by decide
  have small : ∀ char ∈ List.replicate 16 'f', SmallDigit char := fun char member =>
    List.eq_of_mem_replicate member ▸ letter
  have larger : ∀ char ∈ '1' :: List.replicate 16 '0', SmallDigit char :=
    List.forall_mem_cons.2 ⟨one, fun char member => List.eq_of_mem_replicate member ▸ zero⟩
  obtain ⟨inverse, accepted, -⟩ :=
    hexadecimal_forms_inverse 18446744073709551615 (List.replicate 16 'f') small
  obtain ⟨-, -, -, refused, long⟩ :=
    hexadecimal_forms_inverse 0 ('1' :: List.replicate 16 '0') larger
  have beyond : ¬ Canonical ('1' :: List.replicate 16 '0') := long (by decide)
  exact ⟨inverse, small, accepted.1 ⟨_, inverse⟩, beyond, refused beyond⟩

end WalletCore.Chain.Id
