import WalletCore.Chain.Scope
import WalletCore.Proofs.Text.Positional

/-! # Scopes of Ethereum

A key is one of Ethereum, or of one Ethereum chain, if it reads as such a scope. A chain id in
decimal has between one and twenty digits, the first of which is no zero unless it stands alone, so
the written form of the scope of a chain, or of the Ethereum accounts of the wallet, reads as that
scope again. There is no other way to write a scope: a key that reads as one is its written form
(`toText_of_parse?`), which says what the keys of Ethereum look like (`isEthereumKey_iff_toText`).
-/
namespace WalletCore.Chain

/-- A walk to the next colon passes a text without one. -/
theorem passes_of_colon_not_mem {text : List Char} (free : ':' ∉ text) :
    ∀ char ∈ text, decide (char ≠ ':') = true := by
  intro char member
  refine decide_eq_true fun same => ?_
  rw [same] at member
  exact free member

namespace Scope

/-- A key that is read is a key that reads as a scope. -/
theorem parse_eq_ok_iff {key : String} {scope : Scope} :
    parse key = .ok scope ↔ parse? key = some scope := by
  unfold parse
  cases parse? key with
  | none => exact iff_of_false (fun read => by contradiction) (fun read => by contradiction)
  | some found =>
    constructor
    · intro read
      cases read
      rfl
    · intro read
      cases read
      rfl

/-- A key is one of Ethereum if it reads as a scope of Ethereum. -/
theorem isEthereumKey_iff {key : String} :
    isEthereumKey key = true ↔ ∃ scope, parse? key = some scope ∧ scope.isEthereum = true :=
  Option.any_eq_true _ _

/-- A key is one of a chain if it reads as the scope of the chain. -/
theorem chainOfKey?_eq_some_iff {key : String} {chain : Id} :
    chainOfKey? key = some chain ↔ parse? key = some (.eip155 chain) := by
  unfold chainOfKey?
  split
  · rename_i found reads
    rw [reads]
    simp
  · rename_i other
    exact iff_of_false (fun read => by contradiction) (other chain)

/-- A chain id in decimal is read as that chain id. -/
theorem chainOfDecimal?_toDigits (chain : Id) :
    chainOfDecimal? (Nat.toDigits 10 chain.toNat) = some chain := by
  have digits : (Nat.toDigits 10 chain.toNat).all Char.isDigit = true :=
    List.all_eq_true.2 fun _ member =>
      Nat.isDigit_of_mem_toDigits (by decide) (Nat.le_refl _) member
  have leading : ¬ (1 < (Nat.toDigits 10 chain.toNat).length ∧
      (Nat.toDigits 10 chain.toNat).head? = some '0') :=
    mt (Text.leads_iff (by decide) (by decide) 0 _).1 (absurd rfl)
  have bounded : chain.toNat < UInt64.size := chain.toNat_lt_size
  have wellFormed : ¬ ((Nat.toDigits 10 chain.toNat).isEmpty = true ∨
      ¬ (Nat.toDigits 10 chain.toNat).all Char.isDigit = true ∨
      (1 < (Nat.toDigits 10 chain.toNat).length ∧
        (Nat.toDigits 10 chain.toNat).head? = some '0')) := by
    rintro (empty | other | zero)
    · exact Nat.toDigits_ne_nil (List.isEmpty_iff.1 empty)
    · exact other digits
    · exact leading zero
  rw [chainOfDecimal?, if_neg wellFormed]
  simp only [Nat.ofDigitChars_ten_toDigits, if_pos bounded]
  rw [UInt64.ofNat_toNat]

/-- A digit is written for its value, which is less than ten. -/
theorem digitChar_of_isDigit {char : Char} (digit : char.isDigit = true) :
    char.toNat - '0'.toNat < 10 ∧ Nat.digitChar (char.toNat - '0'.toNat) = char := by
  simp only [Char.isDigit, Bool.and_eq_true, decide_eq_true_eq] at digit
  have least : 48 ≤ char.toNat := digit.1
  have most : char.toNat ≤ 57 := digit.2
  have small : char.toNat - 48 < 10 := by omega
  have written : ∀ value < 10, Nat.digitChar value = Char.ofNat (value + 48) := by decide
  refine ⟨small, (written _ small).trans ?_⟩
  rw [Nat.sub_add_cancel least, Char.ofNat_toNat]

/-- A text of digits is made of digits that make the number it stands for. -/
theorem exists_digits_of_isDigit {text : List Char}
    (all : ∀ char ∈ text, char.isDigit = true) :
    ∃ digits, (∀ digit ∈ digits, digit < 10) ∧ digits.map Nat.digitChar = text ∧
      Text.behind 10 digits 0 = Nat.ofDigitChars 10 text 0 := by
  refine ⟨text.map fun char => char.toNat - '0'.toNat, fun digit member => ?_, ?_, ?_⟩
  · obtain ⟨char, listed, rfl⟩ := List.mem_map.1 member
    exact (digitChar_of_isDigit (all char listed)).1
  · rw [List.map_map]
    have each : ∀ char ∈ text, Nat.digitChar (char.toNat - '0'.toNat) = id char :=
      fun char listed => (digitChar_of_isDigit (all char listed)).2
    exact (List.map_congr_left each).trans (List.map_id text)
  · rw [Text.behind, List.foldl_map]
    rfl

/-- A text is a chain id in decimal exactly if it is the decimal form of the id. -/
theorem chainOfDecimal?_eq_some_iff {text : List Char} {chain : Id} :
    chainOfDecimal? text = some chain ↔ text = Nat.toDigits 10 chain.toNat := by
  constructor
  · intro reads
    unfold chainOfDecimal? at reads
    split at reads
    · contradiction
    · rename_i wellFormed
      simp only [not_or, Classical.not_not] at wellFormed
      obtain ⟨filled, digits, leading⟩ := wellFormed
      obtain ⟨bounded, rfl⟩ : Nat.ofDigitChars 10 text 0 < UInt64.size ∧
          UInt64.ofNat (Nat.ofDigitChars 10 text 0) = chain := by
        simpa using reads
      rw [UInt64.toNat_ofNat_of_lt' bounded]
      obtain ⟨values, small, rfl, made⟩ := exists_digits_of_isDigit (List.all_eq_true.1 digits)
      have nonEmpty : values ≠ [] := by
        rintro rfl
        exact filled rfl
      -- Its zeros in front are none.
      obtain ⟨zeros, written⟩ := Text.exists_zeros (by decide : 1 < 10) small nonEmpty
      rw [written, Text.leads_iff (by decide) (by decide), Classical.not_not] at leading
      rw [← made, written, leading]
      rfl
  · rintro rfl
    exact chainOfDecimal?_toDigits chain

/-- A chain id in decimal is a reference. -/
theorem isReference_toDigits (chain : Id) :
    isReference (Nat.toDigits 10 chain.toNat) = true := by
  have positive : 1 ≤ (Nat.toDigits 10 chain.toNat).length := Nat.length_toDigits_pos
  have few : (Nat.toDigits 10 chain.toNat).length ≤ 32 := by
    refine (Nat.length_toDigits_le_iff (by decide) (by decide)).2 ?_
    exact Nat.lt_of_lt_of_le chain.toNat_lt_size (by decide)
  have chars : (Nat.toDigits 10 chain.toNat).all isReferenceChar = true := by
    refine List.all_eq_true.2 fun char member => ?_
    have digit := Nat.isDigit_of_mem_toDigits (by decide) (Nat.le_refl _) member
    simp [isReferenceChar, Char.isAlphanum, digit]
  simp only [isReference, positive, few, chars, decide_true, Bool.and_self]

/-- The written form of the scope of a chain. -/
theorem toList_toText_eip155 (chain : Id) :
    (eip155 chain).toText.toList =
      ['e', 'i', 'p', '1', '5', '5', ':'] ++ Nat.toDigits 10 chain.toNat := by
  rw [toText, String.toList_append, String.toList_append, Nat.toString_eq_repr, Nat.toList_repr]
  rfl

/-- The scope of a chain reads as itself. -/
theorem parse?_eip155 (chain : Id) : parse? (eip155 chain).toText = some (.eip155 chain) := by
  have family : splitFirst (eip155 chain).toText.toList =
      (eip155Family.toList, some (Nat.toDigits 10 chain.toNat)) := by
    rw [toList_toText_eip155]
    rfl
  have known : isFamily eip155Family.toList = true := by decide
  rw [parse?, family]
  simp only [ofParts?, known, isReference_toDigits, chainOfDecimal?_toDigits, not_true_eq_false,
    ↓reduceIte, Option.map_some]

/-- The scope of the Ethereum accounts of the wallet reads as itself. -/
theorem parse?_walletEip155 : parse? walletEip155.toText = some .walletEip155 := by
  decide +kernel

/-- A text without a colon is a family on its own. -/
theorem splitFirst_of_colon_not_mem {text : List Char} (free : ':' ∉ text) :
    splitFirst text = (text, none) := by
  have exhausted : (text ++ []).dropWhile (· ≠ ':') = [] :=
    List.dropWhile_append_of_pos (passes_of_colon_not_mem free)
  rw [List.append_nil] at exhausted
  rw [splitFirst, exhausted]

/-- A text is split at its first colon. -/
theorem splitFirst_append {family : List Char} (free : ':' ∉ family) (reference : List Char) :
    splitFirst (family ++ ':' :: reference) = (family, some reference) := by
  have passes := passes_of_colon_not_mem free
  unfold splitFirst
  rw [List.dropWhile_append_of_pos passes, List.takeWhile_append_of_pos passes]
  simp

/-- The parts of a key, put together again. -/
theorem joined_splitFirst {text family : List Char} {reference : Option (List Char)}
    (parts : splitFirst text = (family, reference)) :
    text = family ++ reference.elim [] (':' :: ·) := by
  have joined := List.takeWhile_append_dropWhile (l := text) (p := (· ≠ ':'))
  have stops := List.head?_dropWhile_not (· ≠ ':') text
  unfold splitFirst at parts
  cases rest : text.dropWhile (· ≠ ':') with
  | nil =>
    rw [rest] at parts
    cases parts
    exact (List.append_nil _).symm
  | cons colon others =>
    rw [rest] at parts joined stops
    cases parts
    have first : colon = ':' := by simpa using stops
    rw [first] at joined
    exact joined.symm

/-- A key that reads as a scope is the written form of this scope. -/
theorem toText_of_parse? {key : String} {scope : Scope} (reads : parse? key = some scope) :
    scope.toText = key := by
  apply String.toList_injective
  rcases parts : splitFirst key.toList with ⟨family, reference⟩
  rw [joined_splitFirst parts]
  simp only [parse?, parts, ofParts?] at reads
  split at reads
  · contradiction
  · cases reference with
    | none =>
      simp only at reads
      split at reads
      · rename_i wallet
        cases reads
        rw [wallet]
        rfl
      · cases reads
        simp [toText]
    | some reference =>
      simp only at reads
      split at reads
      · contradiction
      · split at reads
        · rename_i ethereum
          obtain ⟨chain, decimal, rfl⟩ := Option.map_eq_some_iff.1 reads
          rw [toList_toText_eip155, chainOfDecimal?_eq_some_iff.1 decimal, ethereum]
          rfl
        · split at reads
          · rename_i wallet
            cases reads
            rw [wallet.1, wallet.2]
            rfl
          · cases reads
            simp [toText]

/-- The keys of Ethereum are the written forms of the scopes of its chains, and that of the
accounts on no particular chain. -/
theorem isEthereumKey_iff_toText {key : String} :
    isEthereumKey key = true ↔
      key = walletEip155.toText ∨ ∃ chain, key = (eip155 chain).toText := by
  rw [isEthereumKey_iff]
  constructor
  · rintro ⟨scope, reads, ethereum⟩
    cases scope with
    | eip155 chain => exact .inr ⟨chain, (toText_of_parse? reads).symm⟩
    | walletEip155 => exact .inl (toText_of_parse? reads).symm
    | wallet => contradiction
    | other family reference => contradiction
  · rintro (rfl | ⟨chain, rfl⟩)
    · exact ⟨_, parse?_walletEip155, rfl⟩
    · exact ⟨_, parse?_eip155 chain, rfl⟩

end Scope

end WalletCore.Chain
