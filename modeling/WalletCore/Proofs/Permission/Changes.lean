import WalletCore.Proofs.Permission.Validity

/-! # Runs of changes

An authorization is changed by setting its accounts or its chains, by building it anew, by a merge
with another one from either side, or by putting another one in its place. A change that fails
leaves it as it was. A wallet allows a change that brings in only known addresses, only chains with
a network client, or only an authorization that it accepts. After any number of allowed changes to
the authorization of nothing the result has no scope or is accepted.
-/
namespace WalletCore.Permission

/-- A change of an authorization. -/
inductive Change where
  /-- Its accounts are set. -/
  | accounts (addresses : List String)
  /-- Its chains are set. -/
  | chains (ids : List String)
  /-- It is built anew. -/
  | build (addresses ids : List String)
  /-- Another one is merged into it. -/
  | merge (other : Authorization)
  /-- It is merged into another one. -/
  | mergeInto (other : Authorization)
  /-- Another one takes its place. -/
  | replace (other : Authorization)

namespace Change

/-- The authorization after a change, the same one if the change fails. -/
def apply (value : Authorization) : Change → Authorization
  | .accounts addresses => value.withAccounts addresses
  | .chains ids => (value.withChains ids).toOption.getD value
  | .build addresses ids => (Authorization.build addresses ids).toOption.getD value
  | .merge other => value.merge other
  | .mergeInto other => other.merge value
  | .replace other => other

/-- Whether a wallet allows a change. -/
def Allowed (lookups : WalletLookups) : Change → Prop
  | .accounts addresses => ∀ address ∈ addresses, KnownAddress lookups address
  | .chains ids => KnownChains lookups ids
  | .build addresses ids =>
    (∀ address ∈ addresses, KnownAddress lookups address) ∧ KnownChains lookups ids
  | .merge other | .mergeInto other | .replace other => Accepted lookups other

variable {lookups : WalletLookups} {value : Authorization}

/-- What holds before a change that may fail, and after it where it succeeds, holds after it. -/
theorem of_toOption_getD {property : Authorization → Prop}
    {result : Except Error Authorization} (before : property value)
    (after : ∀ changed, result = .ok changed → property changed) :
    property (result.toOption.getD value) := by
  cases result with
  | error cause => exact before
  | ok changed => exact after changed rfl

/-- An allowed change keeps an authorization admissible. -/
theorem admissible_apply (admissible : Admissible lookups value) {change : Change}
    (allowed : change.Allowed lookups) : Admissible lookups (change.apply value) := by
  cases change with
  | accounts addresses => exact admissible.withAccounts allowed
  | chains ids =>
    exact of_toOption_getD admissible fun changed succeeded =>
      admissible.withChains allowed succeeded
  | build addresses ids =>
    obtain ⟨knownAddresses, knownChains⟩ := allowed
    exact of_toOption_getD admissible fun changed succeeded =>
      .build knownAddresses knownChains succeeded
  | merge other => exact admissible.merge (accepted_iff.1 allowed).2
  | mergeInto other => exact (accepted_iff.1 allowed).2.merge admissible
  | replace other => exact (accepted_iff.1 allowed).2

/-- Allowed changes, one after the other, keep an authorization admissible. -/
theorem admissible_foldl_apply (admissible : Admissible lookups value) {changes : List Change}
    (allowed : ∀ change ∈ changes, change.Allowed lookups) :
    Admissible lookups (changes.foldl apply value) := by
  induction changes generalizing value with
  | nil => exact admissible
  | cons change rest ih =>
    obtain ⟨first, others⟩ := List.forall_mem_cons.1 allowed
    have changed : Admissible lookups (change.apply value) := admissible_apply admissible first
    exact ih changed others

/-- Whatever allowed changes are made to the authorization of nothing, the result has no scope or is
accepted; and the merge of two authorizations that are accepted is accepted. -/
theorem empty_or_accepted_after_changes (lookups : WalletLookups) (changes : List Change)
    (allowed : ∀ change ∈ changes, change.Allowed lookups) :
    ((changes.foldl apply .empty).isEmpty = true ∨
        Accepted lookups (changes.foldl apply .empty)) ∧
      ∀ left right, Accepted lookups left → Accepted lookups right →
        Accepted lookups (left.merge right) := by
  refine ⟨(admissible_foldl_apply .empty allowed).empty_or_accepted, ?_⟩
  intro left right acceptedLeft acceptedRight
  obtain ⟨-, onLeft⟩ := accepted_iff.1 acceptedLeft
  obtain ⟨nonempty, onRight⟩ := accepted_iff.1 acceptedRight
  have both : (left.merge right).scopes ≠ [] := Authorization.scopes_merge_ne_nil_of_right nonempty
  exact accepted_iff.2 ⟨both, onLeft.merge onRight⟩

/-- Accounts on a chain are built, a list of chains with an unreadable one is refused, and the scope
of another family is merged in: the wallet accepts the result, though its own spelling of the
address is another one. -/
theorem empty_or_accepted_after_changes_of_merge :
    let lookups : WalletLookups := {
      accounts := [⟨"1", "0xAbC1"⟩]
      networkClient := fun id => if id = "0x1" then .ok "mainnet" else .error "unknown" }
    let other : Authorization := { Authorization.empty with
      required := Table.empty.insert "solana" []
      multichain := true }
    let changes : List Change :=
      [.build ["0xabc1"] ["0x1"], .chains ["0x1", "137"], .merge other]
    (∀ change ∈ changes, change.Allowed lookups) ∧
      Accepted lookups (changes.foldl apply .empty) := by
  intro lookups other changes
  have address : KnownAddress lookups "0xabc1" :=
    .of_letters (by decide) (List.mem_singleton_self _) (by decide)
  have addresses : ∀ address ∈ ["0xabc1"], KnownAddress lookups address :=
    List.forall_mem_singleton.2 address
  have one : Chain.Id.ofHex "0x1" = .ok 1 := rfl
  have client : lookups.networkClient (Chain.Id.toHex 1) = .ok "mainnet" := rfl
  have mainnet : KnownChains lookups ["0x1"] := knownChains_singleton one client
  have chains : KnownChains lookups ["0x1", "137"] := by
    intro id member chain reads
    rcases List.mem_cons.1 member with rfl | malformed
    · exact mainnet _ (List.mem_singleton_self _) chain reads
    · cases List.mem_singleton.1 malformed
      have refused : Chain.Id.ofHex "137" = .error (.invalidChainId (.unmarked "137")) := rfl
      rw [refused] at reads
      contradiction
  have scopes : other.scopes = [("solana", [])] := rfl
  have nonempty : other.scopes ≠ [] := by
    rw [scopes]
    exact List.cons_ne_nil _ _
  have accepted : Accepted lookups other := by
    refine accepted_iff.2 ⟨nonempty, admissible_iff.2 ?_⟩
    rw [scopes]
    have reads : Chain.Scope.parse "solana" = .ok (.other "solana" none) :=
      Chain.Scope.parse_eq_ok_iff.2 (by decide +kernel)
    refine List.forall_mem_singleton.2 ⟨_, reads, fun account member => ?_, fun chain same => ?_⟩
    · exact absurd member List.not_mem_nil
    · contradiction
  have allowed : ∀ change ∈ changes, change.Allowed lookups := by
    intro change member
    rcases List.mem_cons.1 member with rfl | member
    · exact ⟨addresses, mainnet⟩
    rcases List.mem_cons.1 member with rfl | member
    · exact chains
    cases List.mem_singleton.1 member
    exact accepted
  refine ⟨allowed, ?_⟩
  obtain ⟨empty | result, -⟩ := empty_or_accepted_after_changes lookups changes allowed
  · exact absurd (Authorization.isEmpty_iff.1 empty)
      (Authorization.scopes_merge_ne_nil_of_right nonempty)
  · exact result

end Change

end WalletCore.Permission
