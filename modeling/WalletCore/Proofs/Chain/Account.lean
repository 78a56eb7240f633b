import WalletCore.Chain.Account
import WalletCore.Proofs.Chain.Scope
import WalletCore.Proofs.Except

/-! # Accounts and their texts

No character of an address is a colon, so the colon in front of an address is the last one of a
text and the text falls apart there in one way only. A text is read as an account exactly if it is
the key of a scope with a colon in it, a colon and an address (`parse_eq_ok_iff`). The keys of
Ethereum have a colon, so what is put together from such a key and an address is read again as an
account of just the scope of that key (`parse_underKey`). With any other text behind it such a key
is not read as an account at all (`parse_underKey_eq_ok_iff`): a key has at most one colon, so no
longer key starts with it.
-/
namespace WalletCore.Chain

/-- A key of Ethereum names a chain, or Ethereum, after a colon. -/
theorem Scope.colon_mem_of_isEthereum {key : String} {scope : Scope}
    (reads : parse? key = some scope) (ethereum : scope.isEthereum = true) :
    ':' ∈ key.toList := by
  apply Classical.byContradiction
  intro absent
  simp only [parse?, splitFirst_of_colon_not_mem absent, ofParts?] at reads
  split at reads
  · contradiction
  · split at reads
    · cases reads
      contradiction
    · cases reads
      contradiction

/-- There is at most one colon in a key that is read, the one between its two parts. -/
theorem Scope.count_colon_le_one {key : String} {scope : Scope} (reads : parse? key = some scope) :
    key.toList.count ':' ≤ 1 := by
  have joined := List.takeWhile_append_dropWhile (l := key.toList) (p := (· ≠ ':'))
  have family : (key.toList.takeWhile (· ≠ ':')).count ':' = 0 := by
    refine List.count_eq_zero.2 fun member => ?_
    have kept := List.all_eq_true.1 (List.all_takeWhile (p := (· ≠ ':'))) ':' member
    exact absurd rfl (of_decide_eq_true kept)
  rw [← joined, List.count_append, family]
  cases rest : key.toList.dropWhile (· ≠ ':') with
  | nil => decide
  | cons colon reference =>
    have chars : reference.all isReferenceChar = true := by
      simp only [parse?, splitFirst, rest, ofParts?] at reads
      split at reads
      · contradiction
      · split at reads
        · contradiction
        · rename_i wellFormed
          exact (Bool.and_eq_true_iff.1 (Classical.not_not.1 wellFormed)).2
    have free : reference.count ':' = 0 := by
      refine List.count_eq_zero.2 fun member => ?_
      exact absurd (List.all_eq_true.1 chars ':' member) (by decide)
    rw [List.count_cons, free]
    split <;> decide

namespace Account

/-- There is no colon in an address. -/
theorem colon_not_mem_of_isAddress {address : List Char} (wellFormed : isAddress address = true) :
    ':' ∉ address := by
  intro member
  have chars : address.all isAddressChar = true := (Bool.and_eq_true_iff.1 wellFormed).2
  have colon : isAddressChar ':' = true := List.all_eq_true.1 chars ':' member
  have other : isAddressChar ':' = false := by decide
  rw [other] at colon
  contradiction

/-- A text is split at its last colon. -/
theorem splitLast?_eq_some_iff {text front back : List Char} :
    splitLast? text = some (front, back) ↔ text = front ++ ':' :: back ∧ ':' ∉ back := by
  constructor
  · intro splits
    unfold splitLast? at splits
    have joined := List.takeWhile_append_dropWhile (l := text.reverse) (p := (· ≠ ':'))
    have free : ':' ∉ text.reverse.takeWhile (· ≠ ':') := by
      intro member
      have kept := List.all_eq_true.1 (List.all_takeWhile (p := (· ≠ ':'))) ':' member
      exact absurd rfl (of_decide_eq_true kept)
    have stops := List.head?_dropWhile_not (· ≠ ':') text.reverse
    cases rest : text.reverse.dropWhile (· ≠ ':') with
    | nil =>
      rw [rest] at splits
      contradiction
    | cons colon reversed =>
      rw [rest] at splits joined stops
      cases splits
      have last : colon = ':' := by simpa using stops
      refine ⟨?_, fun member => free (List.mem_reverse.1 member)⟩
      rw [last] at joined
      have turned := congrArg List.reverse joined
      rw [List.reverse_append, List.reverse_cons, List.reverse_reverse, List.append_assoc] at turned
      exact turned.symm
  · rintro ⟨rfl, free⟩
    have passed : ∀ char ∈ back.reverse, decide (char ≠ ':') = true :=
      passes_of_colon_not_mem fun member => free (List.mem_reverse.1 member)
    have turned : (front ++ ':' :: back).reverse = back.reverse ++ ':' :: front.reverse := by simp
    unfold splitLast?
    rw [turned, List.dropWhile_append_of_pos passed, List.takeWhile_append_of_pos passed]
    simp

/-- A key and an address are what stands in front of the last colon and behind it. -/
theorem splitLast?_join {key address : String} (free : ':' ∉ address.toList) :
    splitLast? (key ++ ":" ++ address).toList = some (key.toList, address.toList) := by
  refine splitLast?_eq_some_iff.2 ⟨?_, free⟩
  simp

/-- A text is an account exactly if it is a key that names one chain, a colon and an address. -/
theorem parse_eq_ok_iff {text : String} {account : Account} :
    parse text = .ok account ↔
      ∃ key, text = key ++ ":" ++ account.address ∧ ':' ∈ key.toList ∧
        isAddress account.address.toList = true ∧ Scope.parse? key = some account.scope := by
  constructor
  · intro reads
    unfold parse at reads
    split at reads
    · contradiction
    · rename_i front back splits
      obtain ⟨joined, -⟩ := splitLast?_eq_some_iff.1 splits
      split at reads
      · rename_i wellFormed
        obtain ⟨scope, readsScope, rfl⟩ := map_eq_ok_iff.1 reads
        refine ⟨String.ofList front, ?_, ?_, ?_, Scope.parse_eq_ok_iff.1 readsScope⟩
        · apply String.toList_injective
          simpa using joined
        · simpa using wellFormed.1
        · simpa using wellFormed.2
      · contradiction
  · rintro ⟨key, rfl, colon, wellFormed, reads⟩
    have splits : splitLast? (key ++ ":" ++ account.address).toList =
        some (key.toList, account.address.toList) :=
      splitLast?_join (colon_not_mem_of_isAddress wellFormed)
    have readsScope : Scope.parse key = .ok account.scope := Scope.parse_eq_ok_iff.2 reads
    simp only [parse, splits, colon, wellFormed, and_self, ↓reduceIte, String.ofList_toList,
      readsScope]
    rfl

/-- An address under a key of Ethereum is read as an account of the scope of the key. -/
theorem parse_underKey {key address : String} {scope : Scope}
    (reads : Scope.parse? key = some scope) (ethereum : scope.isEthereum = true)
    (wellFormed : isAddress address.toList = true) :
    parse (key ++ ":" ++ address) = .ok ⟨scope, address⟩ :=
  parse_eq_ok_iff.2
    ⟨key, rfl, Scope.colon_mem_of_isEthereum reads ethereum, wellFormed, reads⟩

/-- A text under a key of Ethereum is read as an account exactly if it is an address, and then as an
account of the scope of the key. -/
theorem parse_underKey_eq_ok_iff {key address : String} {scope : Scope} {account : Account}
    (reads : Scope.parse? key = some scope) (ethereum : scope.isEthereum = true) :
    parse (key ++ ":" ++ address) = .ok account ↔
      isAddress address.toList = true ∧ account = ⟨scope, address⟩ := by
  constructor
  · intro parsed
    obtain ⟨front, same, -, wellFormed, readsFront⟩ := parse_eq_ok_iff.1 parsed
    have texts : key.toList ++ ':' :: address.toList =
        front.toList ++ ':' :: account.address.toList := by
      simpa using congrArg String.toList same
    have free := colon_not_mem_of_isAddress wellFormed
    have alone : ':' ∉ address.toList := by
      -- The key has a colon, and the colon behind it is the only other one that there can be.
      have counted := congrArg (List.count ':') texts
      rw [List.count_append, List.count_append, List.count_cons_self, List.count_cons_self,
        List.count_eq_zero.2 free] at counted
      have least := List.count_pos_iff.2 (Scope.colon_mem_of_isEthereum reads ethereum)
      have most := Scope.count_colon_le_one readsFront
      exact List.count_eq_zero.1 (by omega)
    have splits := splitLast?_eq_some_iff.2 ⟨texts, free⟩
    rw [splitLast?_eq_some_iff.2 ⟨rfl, alone⟩] at splits
    obtain ⟨fronts, backs⟩ := Prod.mk.inj (Option.some.inj splits)
    cases String.toList_injective fronts
    rw [String.toList_injective backs]
    cases reads.symm.trans readsFront
    exact ⟨wellFormed, rfl⟩
  · rintro ⟨wellFormed, rfl⟩
    exact parse_underKey reads ethereum wellFormed

end Account

end WalletCore.Chain
