import WalletCore.Permission.Registry
import WalletCore.Proofs.Authorization.Forms

/-! # Values of caveats are merged as what they stand for

The merger that the registry holds for the caveat of authorizations works on JSON. It has a result
just if both values stand for authorizations, and the result stands for the merge of the two,
whatever the forms were in which they were given (`merger_refines_merge`).
-/
namespace WalletCore.Permission

open Authorization (StandsFor decoder)

/-- The value of a caveat holds an authorization just if it stands for it. -/
theorem authorizationOfValue_eq_ok_iff {json : Json} {value : Authorization} :
    authorizationOfValue json = .ok value ↔ StandsFor json value :=
  mapError_eq_ok_iff.trans Authorization.decoder_ofJson_eq_ok_iff

/-- A value that cannot be decoded makes the caveat invalid. -/
theorem authorizationOfValue_eq_error_iff {json : Json} {cause : Error} :
    authorizationOfValue json = .error cause ↔ ∃ fault, decoder.ofJson json = .error fault ∧
      .invalidCaveat (.undecodable scopesCaveat fault) = cause :=
  mapError_eq_error_iff

/-- Two values are merged just if both stand for authorizations, into what is written of the merge
of these. -/
theorem mergeScopesValues_eq_ok_iff {left right merged : Json} :
    mergeScopesValues left right = .ok merged ↔ ∃ first second, StandsFor left first ∧
      StandsFor right second ∧ (first.merge second).toJson = merged := by
  simp only [mergeScopesValues, bind_eq_ok_iff, authorizationOfValue_eq_ok_iff, Except.ok.injEq,
    exists_and_left]

/-- Two values are not merged if one of them cannot be decoded, and the first such one is to
blame. -/
theorem mergeScopesValues_eq_error_iff {left right : Json} {cause : Error} :
    mergeScopesValues left right = .error cause ↔
      ∃ fault, .invalidCaveat (.undecodable scopesCaveat fault) = cause ∧
        (decoder.ofJson left = .error fault ∨
          (∃ first, StandsFor left first) ∧ decoder.ofJson right = .error fault) := by
  simp only [mergeScopesValues, bind_eq_error_iff, authorizationOfValue_eq_ok_iff,
    authorizationOfValue_eq_error_iff, reduceCtorEq, and_false, exists_false, or_false]
  constructor
  · rintro (⟨fault, failed, same⟩ | ⟨first, stands, fault, failed, same⟩)
    · exact ⟨fault, same, .inl failed⟩
    · exact ⟨fault, same, .inr ⟨⟨first, stands⟩, failed⟩⟩
  · rintro ⟨fault, same, failed | ⟨⟨first, stands⟩, failed⟩⟩
    · exact .inl ⟨fault, failed, same⟩
    · exact .inr ⟨first, stands, fault, failed, same⟩

/-- An authorization is decoded from what is written of it, and from every form of it and from
nothing else. The merger of the caveat of authorizations has a result just if both values are
decoded; the result is then decoded as the merge of what they are decoded as. It fails otherwise,
with the fault of the first value that cannot be decoded, which makes the caveat invalid. -/
theorem merger_refines_merge (lookups : WalletLookups) :
    (∀ value : Authorization, decoder.ofJson value.toJson = .ok value) ∧
    (∀ json value, decoder.ofJson json = .ok value ↔ StandsFor json value) ∧
    ∀ left right, ∃ outcome,
      (CaveatSpecification.authorizedScopes lookups).merge left right = some outcome ∧
      ((∃ merged, outcome = .ok merged) ↔
        (∃ first, decoder.ofJson left = .ok first) ∧
          ∃ second, decoder.ofJson right = .ok second) ∧
      (∀ first second, decoder.ofJson left = .ok first → decoder.ofJson right = .ok second →
        ∃ merged, outcome = .ok merged ∧ decoder.ofJson merged = .ok (first.merge second)) ∧
      ∀ cause, outcome = .error cause →
        ∃ fault, cause = .invalidCaveat (.undecodable scopesCaveat fault) ∧
          (decoder.ofJson left = .error fault ∨
            (∃ first, decoder.ofJson left = .ok first) ∧ decoder.ofJson right = .error fault) := by
  have forms {json : Json} {value : Authorization} :
      decoder.ofJson json = .ok value ↔ StandsFor json value :=
    Authorization.decoder_ofJson_eq_ok_iff
  refine ⟨Authorization.decoder_toJson, fun _ _ => forms, fun left right =>
    ⟨mergeScopesValues left right, rfl, ?_, ?_, ?_⟩⟩
  · simp only [mergeScopesValues_eq_ok_iff, forms]
    constructor
    · rintro ⟨merged, first, second, left, right, -⟩
      exact ⟨⟨first, left⟩, second, right⟩
    · rintro ⟨⟨first, left⟩, second, right⟩
      exact ⟨_, first, second, left, right, rfl⟩
  · intro first second left right
    exact ⟨_, mergeScopesValues_eq_ok_iff.2 ⟨first, second, forms.1 left, forms.1 right, rfl⟩,
      Authorization.decoder_toJson _⟩
  · intro cause failed
    obtain ⟨fault, rfl, blamed⟩ := mergeScopesValues_eq_error_iff.1 failed
    simp only [← forms] at blamed
    exact ⟨fault, rfl, blamed⟩

/-- A value in order that leaves out its session properties is merged with one by name that leaves
out the accounts of a scope. -/
theorem merger_refines_merge_across_forms :
    ∃ merged, (CaveatSpecification.authorizedScopes ⟨[], fun _ => .ok ""⟩).merge
        (.array [.object [("eip155:1", .array [.ofStrings ["eip155:1:0xab"]])], .object [],
          .bool true])
        (.object [("isMultichainOrigin", .bool false), ("unknown", .null),
          ("optionalScopes", .object [("wallet", .object [])]),
          ("requiredScopes", .object [("eip155:1",
            .object [("accounts", .ofStrings ["eip155:1:0xcd"])])])]) = some (.ok merged) ∧
      decoder.ofJson merged = .ok ⟨.ofList [("eip155:1", ["eip155:1:0xab", "eip155:1:0xcd"])],
        .ofList [("wallet", [])], true, .empty⟩ := by
  obtain ⟨outcome, given, -, merges, -⟩ :=
    (merger_refines_merge ⟨[], fun _ => .ok ""⟩).2.2
      (.array [.object [("eip155:1", .array [.ofStrings ["eip155:1:0xab"]])], .object [],
        .bool true])
      (.object [("isMultichainOrigin", .bool false), ("unknown", .null),
        ("optionalScopes", .object [("wallet", .object [])]),
        ("requiredScopes", .object [("eip155:1",
          .object [("accounts", .ofStrings ["eip155:1:0xcd"])])])])
  obtain ⟨merged, rfl, decoded⟩ := merges
    ⟨.ofList [("eip155:1", ["eip155:1:0xab"])], .empty, true, .empty⟩
    ⟨.ofList [("eip155:1", ["eip155:1:0xcd"])], .ofList [("wallet", [])], false, .empty⟩ rfl rfl
  exact ⟨merged, given, decoded⟩

end WalletCore.Permission
