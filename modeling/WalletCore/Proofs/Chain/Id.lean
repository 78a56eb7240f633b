import WalletCore.Chain.Id
import WalletCore.Proofs.Text.Positional

/-! # The texts of a chain id

A text is read as a chain id exactly if it spells it (`ofHex_eq_ok_iff`): behind the marker stand
the digits of the id in letters of either case, or a plus sign, zeros and then those digits. So a
chain has more than one text (`chain_spelled_twice`). The texts without a plus sign and without
capital letters are the hexadecimal forms, and of these each chain has one (`plain_text_unique`).
-/
namespace WalletCore.Chain.Id

/-- The texts that stand for a chain. -/
inductive Spells (chain : Id) : String → Prop where
  /-- The digits of the chain in letters of either case. -/
  | bare {digits : List Char} (same : digits.map Char.toLower = Text.hexadecimal chain.toNat) :
      Spells chain (String.ofList ('0' :: 'x' :: digits))
  /-- A plus sign, and zeros in front of the digits of the chain in letters of either case. -/
  | signed {digits : List Char} (zeros : Nat)
      (same : digits.map Char.toLower =
        List.replicate zeros '0' ++ Text.hexadecimal chain.toNat) :
      Spells chain (String.ofList ('0' :: 'x' :: '+' :: digits))

/-- Whether a text has neither a plus sign nor a capital letter. -/
def Plain (text : String) : Prop := ∀ char ∈ text.toList, char ≠ '+' ∧ char.isUpper = false

instance (text : String) : Decidable (Plain text) :=
  decidable_of_decidable_of_iff
    (p := (text.toList.all fun char => char != '+' && !char.isUpper) = true) (by simp [Plain])

/-- A number below the size of a word is the word that it is. -/
theorem ofNat_eq_iff {value : Nat} {chain : Id} :
    (if value < UInt64.size then some (UInt64.ofNat value) else none) = some chain ↔
      value = chain.toNat := by
  constructor
  · intro same
    split at same
    · rename_i bounded
      cases same
      exact (UInt64.toNat_ofNat_of_lt' bounded).symm
    · contradiction
  · rintro rfl
    rw [if_pos chain.toNat_lt_size, UInt64.ofNat_toNat]

/-- Digits stand for the chain whose digits they are, but for the case of letters and for zeros in
front. -/
theorem number_eq_some_iff {digits : List Char} {chain : Id} :
    ((Text.ofHexadecimal? digits).bind fun value =>
        if value < UInt64.size then some (UInt64.ofNat value) else none) = some chain ↔
      ∃ zeros, digits.map Char.toLower =
        List.replicate zeros '0' ++ Text.hexadecimal chain.toNat := by
  rw [Option.bind_eq_some_iff, ← Text.ofHexadecimal?_eq_some_iff]
  constructor
  · rintro ⟨value, read, word⟩
    rw [ofNat_eq_iff.1 word] at read
    exact read
  · intro read
    exact ⟨chain.toNat, read, ofNat_eq_iff.2 rfl⟩

/-- A character that is in lower case one before the small letters is this one itself. -/
theorem eq_of_toLower {char other : Char} (same : char.toLower = other)
    (early : other.toNat < 97) : char = other := by
  have lower := Text.toNat_toLower char
  rw [same] at lower
  split at lower
  · omega
  · exact Char.toNat_inj.1 lower.symm

/-- Every digit of a chain is the written form of a number below sixteen. -/
theorem exists_digit {value : Nat} {char : Char} (member : char ∈ Text.hexadecimal value) :
    ∃ digit < 16, char = Nat.digitChar digit := by
  obtain ⟨digits, small, written, -⟩ := Text.exists_digits (by decide : 1 < 16) value
  rw [Text.hexadecimal, written] at member
  obtain ⟨digit, among, rfl⟩ := List.mem_map.1 member
  exact ⟨digit, small digit among, rfl⟩

/-- Digits have a zero in front exactly if they start with one and there are others. -/
theorem leads_iff {digits : List Char} {zeros value : Nat}
    (same : digits.map Char.toLower = List.replicate zeros '0' ++ Text.hexadecimal value) :
    1 < digits.length ∧ digits.head? = some '0' ↔ zeros ≠ 0 := by
  have zero : digits.head? = some '0' ↔ (digits.map Char.toLower).head? = some '0' := by
    rw [List.head?_map]
    constructor
    · intro zero
      rw [zero]
      rfl
    · intro zero
      obtain ⟨char, first, lower⟩ := Option.map_eq_some_iff.1 zero
      rw [first, eq_of_toLower lower (by decide)]
  rw [← List.length_map (f := Char.toLower), zero, same]
  exact Text.leads_iff (by decide) (by decide) zeros value

/-- Digits stand for a chain exactly if they are its digits, or a plus sign and its digits, but for
the case of letters and for zeros in front. -/
theorem ofDigits?_eq_some_iff {digits : List Char} {chain : Id} :
    ofDigits? digits = some chain ↔
      ∃ zeros unsigned, (digits = unsigned ∨ digits = '+' :: unsigned) ∧
        unsigned.map Char.toLower = List.replicate zeros '0' ++ Text.hexadecimal chain.toNat := by
  unfold ofDigits?
  split
  · rename_i rest
    rw [number_eq_some_iff]
    constructor
    · rintro ⟨zeros, same⟩
      exact ⟨zeros, rest, .inr rfl, same⟩
    · rintro ⟨zeros, unsigned, rfl | sign, same⟩
      · have plus : '+' ∈ List.replicate zeros '0' ++ Text.hexadecimal chain.toNat := by
          rw [← same]
          exact List.mem_cons_self
        rcases List.mem_append.1 plus with zero | digit
        · exact absurd (List.eq_of_mem_replicate zero) (by decide)
        · obtain ⟨digit, -, sign⟩ := exists_digit digit
          exact absurd sign.symm (Nat.digitChar_ne '+' (by decide))
      · cases sign
        exact ⟨zeros, same⟩
  · rename_i unsigned
    rw [number_eq_some_iff]
    constructor
    · rintro ⟨zeros, same⟩
      exact ⟨zeros, digits, .inl rfl, same⟩
    · rintro ⟨zeros, rest, rfl | sign, same⟩
      · exact ⟨zeros, same⟩
      · exact absurd sign (unsigned rest)

/-- Behind the marker stand digits that do not have a zero in front. -/
theorem ofHex_ofList_eq_ok_iff {digits : List Char} {chain : Id} :
    ofHex (String.ofList ('0' :: 'x' :: digits)) = .ok chain ↔
      ¬ (1 < digits.length ∧ digits.head? = some '0') ∧ ofDigits? digits = some chain := by
  rw [ofHex, String.toList_ofList]
  simp only
  constructor
  · intro read
    split at read
    · contradiction
    · rename_i wellFormed
      refine ⟨(not_or.1 wellFormed).2, ?_⟩
      cases found : ofDigits? digits with
      | none =>
        rw [found] at read
        contradiction
      | some other =>
        rw [found] at read
        cases read
        rfl
  · rintro ⟨leading, found⟩
    have filled : ¬ digits.isEmpty = true := by
      intro empty
      rw [List.isEmpty_iff.1 empty] at found
      contradiction
    rw [if_neg (not_or.2 ⟨filled, leading⟩), found]
    rfl

/-- A text is read as a chain id exactly if it spells it. -/
theorem ofHex_eq_ok_iff {text : String} {chain : Id} :
    ofHex text = .ok chain ↔ Spells chain text := by
  constructor
  · intro read
    obtain ⟨digits, rfl⟩ : ∃ digits, text = String.ofList ('0' :: 'x' :: digits) := by
      unfold ofHex at read
      split at read
      · rename_i digits marked
        exact ⟨digits, by rw [← marked, String.ofList_toList]⟩
      · contradiction
    obtain ⟨leading, found⟩ := ofHex_ofList_eq_ok_iff.1 read
    obtain ⟨zeros, unsigned, rfl | rfl, same⟩ := ofDigits?_eq_some_iff.1 found
    · have unpadded : zeros = 0 := Classical.not_not.1 (mt (leads_iff same).2 leading)
      rw [unpadded] at same
      exact .bare same
    · exact .signed zeros same
  · rintro (same | ⟨zeros, same⟩)
    · have leading := mt (leads_iff same).1 (absurd rfl)
      exact ofHex_ofList_eq_ok_iff.2 ⟨leading, ofDigits?_eq_some_iff.2 ⟨0, _, .inl rfl, same⟩⟩
    · refine ofHex_ofList_eq_ok_iff.2 ⟨?_, ofDigits?_eq_some_iff.2 ⟨zeros, _, .inr rfl, same⟩⟩
      rintro ⟨-, zero⟩
      cases zero

/-- Only the characters behind the marker can be plus signs or capital letters. -/
theorem plain_iff {digits : List Char} :
    Plain (String.ofList ('0' :: 'x' :: digits)) ↔
      ∀ char ∈ digits, char ≠ '+' ∧ char.isUpper = false := by
  rw [Plain, String.toList_ofList, List.forall_mem_cons, List.forall_mem_cons]
  constructor
  · rintro ⟨-, -, behind⟩
    exact behind
  · intro behind
    exact ⟨by decide, by decide, behind⟩

/-- The characters of the hexadecimal form of a chain are no plus signs and no capital letters. -/
theorem plain_toHex (chain : Id) : Plain chain.toHex := by
  have digits : ∀ digit < 16, (Nat.digitChar digit) ≠ '+' ∧
      (Nat.digitChar digit).isUpper = false := by decide
  refine plain_iff.2 fun char member => ?_
  obtain ⟨digit, small, rfl⟩ := exists_digit member
  exact digits digit small

/-- A text of a chain is its hexadecimal form exactly if it has neither a plus sign nor a capital
letter. -/
theorem Spells.eq_toHex_iff {text : String} {chain : Id} (spells : Spells chain text) :
    text = chain.toHex ↔ Plain text := by
  constructor
  · rintro rfl
    exact plain_toHex chain
  · intro plain
    cases spells with
    | bare same =>
      have small := Text.map_toLower_of_isUpper_eq_false fun char member =>
        (plain_iff.1 plain char member).2
      rw [toHex, ← same, small]
    | signed zeros same => exact absurd rfl (plain_iff.1 plain '+' List.mem_cons_self).1

/-- A text is read as a chain id exactly if it spells it, which it does in letters of either case
and with zeros behind a plus sign. It is the hexadecimal form of the chain exactly if it has neither
a plus sign nor a capital letter, so of such texts each chain has only one. -/
theorem plain_text_unique (text : String) (chain : Id) :
    (ofHex text = .ok chain ↔ Spells chain text) ∧
      (ofHex text = .ok chain → (text = chain.toHex ↔ Plain text)) ∧
      ∀ other, ofHex text = .ok chain → ofHex other = .ok chain → Plain text → Plain other →
        text = other := by
  have form : ∀ other, ofHex other = .ok chain → (other = chain.toHex ↔ Plain other) :=
    fun other read => (ofHex_eq_ok_iff.1 read).eq_toHex_iff
  refine ⟨ofHex_eq_ok_iff, form text, fun other read readOther plain plainOther => ?_⟩
  rw [(form text read).2 plain, (form other readOther).2 plainOther]

/-- Of two texts of one chain that differ in the case of a letter, the one without capital letters
is the hexadecimal form. -/
theorem plain_text_unique_of_capitals :
    ofHex "0xaa36a7" = .ok 11155111 ∧ ofHex "0xaA36a7" = .ok 11155111 ∧
      "0xaa36a7" = Id.toHex 11155111 ∧ "0xaA36a7" ≠ Id.toHex 11155111 := by
  have small : ofHex "0xaa36a7" = .ok 11155111 := rfl
  have capital : ofHex "0xaA36a7" = .ok 11155111 := rfl
  obtain ⟨-, form, -⟩ := plain_text_unique "0xaa36a7" 11155111
  obtain ⟨-, other, -⟩ := plain_text_unique "0xaA36a7" 11155111
  exact ⟨small, capital, (form small).2 (by decide), mt (other capital).1 (by decide)⟩

/-- One chain has several texts: a letter may be a capital one, and behind a plus sign zeros may
stand in front. -/
theorem chain_spelled_twice :
    ofHex "0xa" = .ok 10 ∧ ofHex "0xA" = .ok 10 ∧ ofHex "0x+0a" = .ok 10 ∧
      ¬ ∀ text other chain, ofHex text = .ok chain → ofHex other = .ok chain → text = other := by
  have small : ofHex "0xa" = .ok 10 := rfl
  have capital : ofHex "0xA" = .ok 10 := rfl
  refine ⟨small, capital, rfl, fun unique => ?_⟩
  exact absurd (unique _ _ _ small capital) (by decide)

end WalletCore.Chain.Id
