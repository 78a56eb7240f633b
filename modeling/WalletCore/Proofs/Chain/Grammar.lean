import WalletCore.Proofs.Chain.Account

/-! # The grammar of scopes and accounts

A text is read as a scope exactly if it names one (`Scope.parse_follows_grammar`): a family, or a
family, a colon and a reference, which under the family of Ethereum has to be a chain id in decimal.
The scope is written as the text that it was read from, so each scope has one text.

A text is read as an account exactly if it falls apart into the key of a scope, with a colon in it,
a colon and an address (`Account.parts_unique`). Keys are taken apart at their first colon and
accounts at their last one; the two agree, for there is only one way to take an account apart.
-/
namespace WalletCore.Chain

/-! ## Characters and texts -/

/-- Whether a character is a small letter. -/
def Small (char : Char) : Prop := 'a' ≤ char ∧ char ≤ 'z'

/-- Whether a character is a capital letter. -/
def Capital (char : Char) : Prop := 'A' ≤ char ∧ char ≤ 'Z'

/-- Whether a character is a decimal digit. -/
def Digit (char : Char) : Prop := '0' ≤ char ∧ char ≤ '9'

/-- Whether a text has a length between two bounds, and only characters that are allowed. -/
structure Consists (least most : Nat) (allowed : Char → Prop) (text : String) : Prop where
  /-- The text is long enough. -/
  least_le : least ≤ text.length
  /-- The text is short enough. -/
  le_most : text.length ≤ most
  /-- All characters are allowed. -/
  allowed : ∀ char ∈ text.toList, allowed char

/-- The small letters. -/
theorem isLower_iff {char : Char} : char.isLower = true ↔ Small char :=
  Bool.and_eq_true_iff.trans (and_congr decide_eq_true_iff decide_eq_true_iff)

/-- The decimal digits. -/
theorem isDigit_iff {char : Char} : char.isDigit = true ↔ Digit char :=
  Bool.and_eq_true_iff.trans (and_congr decide_eq_true_iff decide_eq_true_iff)

/-- The letters and digits. -/
theorem isAlphanum_iff {char : Char} :
    char.isAlphanum = true ↔ Small char ∨ Capital char ∨ Digit char := by
  have capital : char.isUpper = true ↔ Capital char := decide_eq_true_iff
  change ((char.isUpper || char.isLower) || char.isDigit) = true ↔ _
  rw [Bool.or_eq_true, Bool.or_eq_true, capital, isLower_iff, isDigit_iff,
    or_comm (a := Capital char), or_assoc]

/-- The test of a length and of all characters says what a text consists of. -/
theorem consists_iff {least most : Nat} {allowed : Char → Prop} {test : Char → Bool}
    (same : ∀ char, test char = true ↔ allowed char) {text : String} :
    (least ≤ text.toList.length && text.toList.length ≤ most && text.toList.all test) = true ↔
      Consists least most allowed text := by
  rw [Bool.and_eq_true, Bool.and_eq_true, decide_eq_true_iff, decide_eq_true_iff,
    List.all_eq_true, String.length_toList]
  constructor
  · rintro ⟨⟨long, short⟩, chars⟩
    exact ⟨long, short, fun char member => (same char).1 (chars char member)⟩
  · rintro ⟨long, short, chars⟩
    exact ⟨⟨long, short⟩, fun char member => (same char).2 (chars char member)⟩

namespace Scope

/-! ## Scopes -/

/-- Whether a text is the name of a family. -/
def FamilyName : String → Prop :=
  Consists 3 8 fun char => Small char ∨ Digit char ∨ char = '-'

/-- Whether a text is a reference to a chain of some family. -/
def Reference : String → Prop :=
  Consists 1 32 fun char => (Small char ∨ Capital char ∨ Digit char) ∨ char = '-' ∨ char = '_'

/-- Whether a text is a number of 64 bits in decimal: without a sign and without leading zeros. -/
structure Decimal (text : String) : Prop where
  /-- There is a digit. -/
  nonempty : text ≠ ""
  /-- There are only digits. -/
  digits : ∀ char ∈ text.toList, Digit char
  /-- A zero in front stands alone. -/
  leading : text.toList.head? = some '0' → text = "0"
  /-- The number has 64 bits. -/
  bounded : Nat.ofDigitChars 10 text.toList 0 < UInt64.size

/-- The texts that name a scope. -/
inductive Names : String → Prop where
  /-- A family. -/
  | family {family : String} (name : FamilyName family) : Names family
  /-- A chain of a family; those of Ethereum have numbers. -/
  | chain {family reference : String} (name : FamilyName family) (shape : Reference reference)
      (decimal : family = "eip155" → Decimal reference) : Names (family ++ ":" ++ reference)

/-- The test of a family accepts its names. -/
theorem isFamily_iff {text : String} : isFamily text.toList = true ↔ FamilyName text :=
  consists_iff fun char => by
    rw [isFamilyChar, Bool.or_eq_true, Bool.or_eq_true, isLower_iff, isDigit_iff,
      decide_eq_true_iff, or_assoc]

/-- The test of a reference accepts the references. -/
theorem isReference_iff {text : String} : isReference text.toList = true ↔ Reference text :=
  consists_iff fun char => by
    rw [isReferenceChar, Bool.or_eq_true, Bool.or_eq_true, isAlphanum_iff, decide_eq_true_iff,
      decide_eq_true_iff, or_assoc]

/-- The texts that are read as a chain id in decimal are the numbers of 64 bits. -/
theorem exists_chainOfDecimal?_iff {text : String} :
    (∃ chain, chainOfDecimal? text.toList = some chain) ↔ Decimal text := by
  unfold chainOfDecimal?
  constructor
  · rintro ⟨chain, read⟩
    split at read
    · contradiction
    · rename_i wellFormed
      simp only [not_or, Classical.not_not] at wellFormed
      obtain ⟨nonempty, digits, leading⟩ := wellFormed
      refine ⟨?_, fun char member => isDigit_iff.1 (List.all_eq_true.1 digits char member), ?_, ?_⟩
      · rintro rfl
        exact nonempty rfl
      · intro zero
        obtain ⟨rest, starts⟩ := List.head?_eq_some_iff.1 zero
        have short : ¬ 1 < text.toList.length := fun long => leading ⟨long, zero⟩
        rw [starts, List.length_cons] at short
        have alone : rest = [] := List.eq_nil_of_length_eq_zero (by omega)
        apply String.toList_injective
        rw [starts, alone]
        rfl
      · obtain ⟨bounded, -⟩ : Nat.ofDigitChars 10 text.toList 0 < UInt64.size ∧
            UInt64.ofNat (Nat.ofDigitChars 10 text.toList 0) = chain := by
          simpa using read
        exact bounded
  · rintro ⟨nonempty, digits, leading, bounded⟩
    have wellFormed : ¬ (text.toList.isEmpty = true ∨ ¬ text.toList.all Char.isDigit = true ∨
        (1 < text.toList.length ∧ text.toList.head? = some '0')) := by
      rintro (empty | other | ⟨long, zero⟩)
      · exact nonempty (String.toList_injective (List.isEmpty_iff.1 empty))
      · exact other (List.all_eq_true.2 fun char member => isDigit_iff.2 (digits char member))
      · rw [leading zero] at long
        exact absurd long (by decide)
    rw [if_neg wellFormed]
    exact ⟨_, if_pos bounded⟩

/-- Two parts make a scope if they are a family and a reference, which is a chain id for the family
of Ethereum. -/
theorem exists_ofParts?_iff {family : List Char} {reference : Option (List Char)} :
    (∃ scope, ofParts? family reference = some scope) ↔
      isFamily family = true ∧ ∀ text, reference = some text →
        isReference text = true ∧
          (family = eip155Family.toList → ∃ chain, chainOfDecimal? text = some chain) := by
  unfold ofParts?
  by_cases known : isFamily family = true
  · rw [if_neg (not_not_intro known), and_iff_right known]
    cases reference with
    | none =>
      refine iff_of_true ?_ nofun
      simp only
      split
      · exact ⟨_, rfl⟩
      · exact ⟨_, rfl⟩
    | some reference =>
      simp only [Option.some.injEq, forall_eq']
      by_cases shape : isReference reference = true
      · rw [if_neg (not_not_intro shape), and_iff_right shape]
        by_cases ethereum : family = eip155Family.toList
        · rw [if_pos ethereum, imp_iff_right ethereum]
          constructor
          · rintro ⟨scope, read⟩
            obtain ⟨chain, decimal, -⟩ := Option.map_eq_some_iff.1 read
            exact ⟨chain, decimal⟩
          · rintro ⟨chain, decimal⟩
            exact ⟨_, Option.map_eq_some_iff.2 ⟨chain, decimal, rfl⟩⟩
        · rw [if_neg ethereum]
          refine iff_of_true ?_ (absurd · ethereum)
          split
          · exact ⟨_, rfl⟩
          · exact ⟨_, rfl⟩
      · rw [if_pos shape]
        exact iff_of_false nofun fun parts => shape parts.1
  · rw [if_pos known]
    exact iff_of_false nofun fun parts => known parts.1

/-- There is no colon in the name of a family. -/
theorem FamilyName.colon_not_mem {family : String} (name : FamilyName family) :
    ':' ∉ family.toList := by
  intro member
  have letter := name.allowed ':' member
  revert letter
  unfold Small Digit
  decide

/-- A text is read as a scope exactly if it names one. -/
theorem exists_parse?_iff {text : String} : (∃ scope, parse? text = some scope) ↔ Names text := by
  constructor
  · intro read
    unfold parse? at read
    rcases parts : splitFirst text.toList with ⟨family, reference⟩
    rw [parts] at read
    obtain ⟨known, rest⟩ := exists_ofParts?_iff.1 read
    have joined := joined_splitFirst parts
    have name : FamilyName (String.ofList family) :=
      isFamily_iff.1 (by rwa [String.toList_ofList])
    cases reference with
    | none =>
      have whole : text = String.ofList family := by
        apply String.toList_injective
        rw [joined, String.toList_ofList]
        exact List.append_nil family
      rw [whole]
      exact .family name
    | some reference =>
      obtain ⟨shape, decimal⟩ := rest reference rfl
      have whole : text = String.ofList family ++ ":" ++ String.ofList reference := by
        apply String.toList_injective
        simpa using joined
      rw [whole]
      refine .chain name (isReference_iff.1 (by rwa [String.toList_ofList])) fun ethereum => ?_
      refine exists_chainOfDecimal?_iff.1 ?_
      rw [String.toList_ofList]
      refine decimal ?_
      rw [← String.toList_ofList (l := family), ethereum]
      rfl
  · intro names
    unfold parse?
    cases names with
    | family name =>
      rw [splitFirst_of_colon_not_mem name.colon_not_mem]
      exact exists_ofParts?_iff.2 ⟨isFamily_iff.2 name, nofun⟩
    | @chain family reference name shape decimal =>
      have whole : (family ++ ":" ++ reference).toList =
          family.toList ++ ':' :: reference.toList := by
        simp
      rw [whole, splitFirst_append name.colon_not_mem]
      refine exists_ofParts?_iff.2 ⟨isFamily_iff.2 name, ?_⟩
      rintro _ ⟨⟩
      refine ⟨isReference_iff.2 shape, fun ethereum => ?_⟩
      exact exists_chainOfDecimal?_iff.2 (decimal (String.toList_injective ethereum))

/-- The written form of the scope of a chain. -/
theorem toText_eip155 (chain : Id) : (eip155 chain).toText = "eip155:" ++ toString chain.toNat :=
  rfl

/-- A text is read as a scope exactly if it names one: a family, or a family, a colon and a
reference, which has to be a number of 64 bits in decimal if the family is that of Ethereum. What is
read is written as the text, so no other text is read as the same scope. It is the scope of a chain
of Ethereum exactly if the text is the family of Ethereum and the number of the chain in decimal,
and its accounts are Ethereum addresses exactly if it is one of these or that of the wallet for
Ethereum. -/
theorem parse_follows_grammar (text : String) :
    ((∃ scope, parse text = .ok scope) ↔ Names text) ∧
      ∀ scope, parse text = .ok scope →
        scope.toText = text ∧
          (∀ other, parse other = .ok scope → other = text) ∧
          (∀ chain, scope = .eip155 chain ↔ text = "eip155:" ++ toString chain.toNat) ∧
          (scope.isEthereum = true ↔
            (∃ chain : Id, text = "eip155:" ++ toString chain.toNat) ∨ text = "wallet:eip155") := by
  refine ⟨(exists_congr fun _ => parse_eq_ok_iff).trans exists_parse?_iff, fun scope read => ?_⟩
  have written := toText_of_parse? (parse_eq_ok_iff.1 read)
  have chain : ∀ chain, scope = .eip155 chain ↔ text = "eip155:" ++ toString chain.toNat := by
    intro chain
    rw [← toText_eip155]
    constructor
    · rintro rfl
      exact written.symm
    · rintro rfl
      have again := parse?_eip155 chain
      rw [parse_eq_ok_iff.1 read] at again
      exact Option.some.inj again
  refine ⟨written, fun other readOther => ?_, chain, ?_⟩
  · exact (toText_of_parse? (parse_eq_ok_iff.1 readOther)).symm.trans written
  · have ethereum : scope.isEthereum = true ↔ isEthereumKey text = true := by
      rw [isEthereumKey_iff, parse_eq_ok_iff.1 read]
      simp
    rw [ethereum, isEthereumKey_iff_toText, or_comm]
    rfl

/-- The last chain of Ethereum is read from its decimal form, and the number behind it is not read:
the text for it does not name a scope. -/
theorem parse_follows_grammar_at_last_chain :
    parse "eip155:18446744073709551615" = .ok (.eip155 18446744073709551615) ∧
      "eip155:18446744073709551615" = "eip155:" ++ toString (18446744073709551615 : Id).toNat ∧
      ¬ Names "eip155:18446744073709551616" := by
  have last : parse "eip155:18446744073709551615" = .ok (.eip155 18446744073709551615) :=
    parse_eq_ok_iff.2 (by decide +kernel)
  have beyond : parse? "eip155:18446744073709551616" = none := by decide +kernel
  obtain ⟨-, read⟩ := parse_follows_grammar "eip155:18446744073709551615"
  obtain ⟨-, -, chain, -⟩ := read _ last
  obtain ⟨accepts, -⟩ := parse_follows_grammar "eip155:18446744073709551616"
  have written := (chain 18446744073709551615).1 rfl
  refine ⟨last, written, fun names => ?_⟩
  obtain ⟨scope, found⟩ := accepts.2 names
  rw [parse_eq_ok_iff.1 found] at beyond
  exact Option.some_ne_none scope beyond

end Scope

namespace Account

/-! ## Accounts -/

/-- Whether a text is an address. -/
def Address : String → Prop :=
  Consists 1 128 fun char =>
    (Small char ∨ Capital char ∨ Digit char) ∨ char = '-' ∨ char = '.' ∨ char = '%'

/-- Whether a text is the key of a scope that names one chain, a colon and an address. -/
structure Parts (text key address : String) : Prop where
  /-- The text is put together from its parts. -/
  joined : text = key ++ ":" ++ address
  /-- The key names one chain. -/
  colon : ':' ∈ key.toList
  /-- The key is that of a scope. -/
  scope : ∃ scope, Scope.parse key = .ok scope
  /-- The rest is an address. -/
  address : Address address

/-- The test of an address accepts the addresses. -/
theorem isAddress_iff {text : String} : isAddress text.toList = true ↔ Address text :=
  consists_iff fun char => by
    rw [isAddressChar, Bool.or_eq_true, Bool.or_eq_true, Bool.or_eq_true, isAlphanum_iff,
      decide_eq_true_iff, decide_eq_true_iff, decide_eq_true_iff, or_assoc, or_assoc]

/-- There is no colon in an address. -/
theorem Address.colon_not_mem {address : String} (shape : Address address) :
    ':' ∉ address.toList :=
  colon_not_mem_of_isAddress (isAddress_iff.2 shape)

/-- An account that is read falls apart into the key of its scope and its address. -/
theorem parse_eq_ok_iff_parts {text : String} {account : Account} :
    parse text = .ok account ↔
      ∃ key, Parts text key account.address ∧ Scope.parse key = .ok account.scope := by
  rw [parse_eq_ok_iff]
  constructor
  · rintro ⟨key, joined, colon, shape, read⟩
    have found := Scope.parse_eq_ok_iff.2 read
    exact ⟨key, ⟨joined, colon, ⟨_, found⟩, isAddress_iff.1 shape⟩, found⟩
  · rintro ⟨key, ⟨joined, colon, -, shape⟩, found⟩
    exact ⟨key, joined, colon, isAddress_iff.2 shape, Scope.parse_eq_ok_iff.1 found⟩

/-- The parts of a text are in front of its last colon and behind it. -/
theorem Parts.splitLast? {text key address : String} (parts : Parts text key address) :
    splitLast? text.toList = some (key.toList, address.toList) := by
  rw [parts.joined]
  exact splitLast?_join parts.address.colon_not_mem

/-- A text falls apart in one way only. -/
theorem Parts.unique {text key address other place : String} (parts : Parts text key address)
    (others : Parts text other place) : other = key ∧ place = address := by
  have same := others.splitLast?.symm.trans parts.splitLast?
  obtain ⟨keys, addresses⟩ := Prod.mk.inj (Option.some.inj same)
  exact ⟨String.toList_injective keys, String.toList_injective addresses⟩

/-- A text is read as an account exactly if it falls apart into the key of a scope that names one
chain, a colon and an address, which it does in one way only. The account has the scope of the key
and the address, and is written as the text. So the scope of an account is that of a key exactly if
the text of the account is this very key, a colon and its address. -/
theorem parts_unique (text : String) :
    ((∃ account, parse text = .ok account) ↔ ∃ key address, Parts text key address) ∧
      (∀ key address other place, Parts text key address → Parts text other place →
        other = key ∧ place = address) ∧
      ∀ account, parse text = .ok account →
        account.toText = text ∧
          (∀ key address, Parts text key address →
            Scope.parse key = .ok account.scope ∧ account.address = address) ∧
          ∀ key scope, Scope.parse key = .ok scope →
            (account.scope = scope ↔ text = key ++ ":" ++ account.address) := by
  refine ⟨⟨?_, ?_⟩, fun key address other place parts others => parts.unique others, ?_⟩
  · rintro ⟨account, read⟩
    obtain ⟨key, parts, -⟩ := parse_eq_ok_iff_parts.1 read
    exact ⟨key, account.address, parts⟩
  · rintro ⟨key, address, parts⟩
    obtain ⟨scope, found⟩ := parts.scope
    exact ⟨⟨scope, address⟩, parse_eq_ok_iff_parts.2 ⟨key, parts, found⟩⟩
  · intro account read
    obtain ⟨place, parts, found⟩ := parse_eq_ok_iff_parts.1 read
    have written := Scope.toText_of_parse? (Scope.parse_eq_ok_iff.1 found)
    refine ⟨?_, fun key address others => ?_, fun key scope other => ⟨?_, ?_⟩⟩
    · rw [toText, written, parts.joined]
    · obtain ⟨rfl, rfl⟩ := parts.unique others
      exact ⟨found, rfl⟩
    · rintro rfl
      have same := Scope.toText_of_parse? (Scope.parse_eq_ok_iff.1 other)
      rw [parts.joined, ← same, written]
    · intro joined
      have texts : key.toList ++ ':' :: account.address.toList =
          place.toList ++ ':' :: account.address.toList := by
        simpa using congrArg String.toList (joined.symm.trans parts.joined)
      have same : key = place := String.toList_injective (List.append_cancel_right texts)
      rw [same, found] at other
      exact Except.ok.inj other

/-- A text with two colons falls apart at the second of them; with a third one behind it, the text
is no account. -/
theorem parts_unique_of_wallet :
    parse "wallet:eip155:0xAb.c" = .ok ⟨.walletEip155, "0xAb.c"⟩ ∧
      Parts "wallet:eip155:0xAb.c" "wallet:eip155" "0xAb.c" ∧
      ¬ ∃ key address, Parts "wallet:eip155:0xAb.c:d" key address := by
  have read : parse "wallet:eip155:0xAb.c" = .ok ⟨.walletEip155, "0xAb.c"⟩ :=
    parse_eq_ok_iff.2 ⟨"wallet:eip155", by decide, by decide, by decide, by decide +kernel⟩
  obtain ⟨falls, -, same⟩ := parts_unique "wallet:eip155:0xAb.c"
  obtain ⟨key, address, parts⟩ := falls.1 ⟨_, read⟩
  obtain ⟨-, whole, -⟩ := same _ read
  obtain ⟨found, rfl⟩ := whole key address parts
  have written : "wallet:eip155" = key :=
    Scope.toText_of_parse? (Scope.parse_eq_ok_iff.1 found)
  refine ⟨read, written.symm ▸ parts, ?_⟩
  have refused : parse? "wallet:eip155:0xAb.c:d" = none := by decide +kernel
  obtain ⟨longer, -⟩ := parts_unique "wallet:eip155:0xAb.c:d"
  rw [← longer]
  rintro ⟨account, other⟩
  rw [parse?, other] at refused
  contradiction

end Account

end WalletCore.Chain
