/-! # Steps that can fail

A sequence of steps succeeds exactly if each of its steps does, and fails as the first one of them
that fails. These theorems take the monadic code of the checks and conversions apart.
-/
namespace WalletCore

variable {ε α β : Type}

/-- After a success the rest goes on with its result. -/
theorem ok_bind (value : α) (next : α → Except ε β) :
    ((.ok value : Except ε α) >>= next) = next value := rfl

/-- Two steps succeed if the first one does and the second one does with its result. -/
theorem bind_eq_ok_iff {first : Except ε α} {next : α → Except ε β} {result : β} :
    first >>= next = .ok result ↔ ∃ value, first = .ok value ∧ next value = .ok result := by
  cases first with
  | error cause =>
    constructor
    · intro succeeded
      contradiction
    · rintro ⟨value, succeeded, -⟩
      contradiction
  | ok value =>
    constructor
    · intro succeeded
      exact ⟨value, rfl, succeeded⟩
    · rintro ⟨_, same, succeeded⟩
      cases same
      exact succeeded

/-- Two steps fail if the first one does, or the second one does with its result. -/
theorem bind_eq_error_iff {first : Except ε α} {next : α → Except ε β} {cause : ε} :
    first >>= next = .error cause ↔
      first = .error cause ∨ ∃ value, first = .ok value ∧ next value = .error cause := by
  cases first with
  | error found =>
    constructor
    · intro failed
      cases failed
      exact .inl rfl
    · rintro (same | ⟨_, succeeded, -⟩)
      · cases same
        rfl
      · contradiction
  | ok value =>
    constructor
    · intro failed
      exact .inr ⟨value, rfl, failed⟩
    · rintro (impossible | ⟨_, same, failed⟩)
      · contradiction
      · cases same
        exact failed

/-- A function of a result succeeds if the step to that result does. -/
theorem map_eq_ok_iff {first : Except ε α} {f : α → β} {result : β} :
    first.map f = .ok result ↔ ∃ value, first = .ok value ∧ f value = result := by
  cases first with
  | error cause =>
    constructor
    · intro succeeded
      contradiction
    · rintro ⟨value, succeeded, -⟩
      contradiction
  | ok value =>
    constructor
    · intro succeeded
      cases succeeded
      exact ⟨value, rfl, rfl⟩
    · rintro ⟨_, same, rfl⟩
      cases same
      rfl

/-- A step whose errors are renamed succeeds if the step does. -/
theorem mapError_eq_ok_iff {δ : Type} {first : Except ε α} {f : ε → δ} {result : α} :
    first.mapError f = .ok result ↔ first = .ok result := by
  cases first with
  | error cause =>
    constructor
    · intro succeeded
      contradiction
    · intro succeeded
      contradiction
  | ok value =>
    constructor
    · intro succeeded
      cases succeeded
      rfl
    · intro succeeded
      cases succeeded
      rfl

/-- A step whose errors are renamed fails if the step does. -/
theorem mapError_eq_error_iff {δ : Type} {first : Except ε α} {f : ε → δ} {cause : δ} :
    first.mapError f = .error cause ↔ ∃ found, first = .error found ∧ f found = cause := by
  cases first with
  | error found =>
    constructor
    · intro failed
      cases failed
      exact ⟨found, rfl, rfl⟩
    · rintro ⟨_, same, rfl⟩
      cases same
      rfl
  | ok value =>
    constructor
    · intro failed
      contradiction
    · rintro ⟨_, failed, -⟩
      contradiction

/-- What is left of a result is there if it succeeded. -/
theorem toOption_eq_some_iff {first : Except ε α} {result : α} :
    first.toOption = some result ↔ first = .ok result := by
  cases first with
  | error cause =>
    constructor
    · intro present
      contradiction
    · intro succeeded
      contradiction
  | ok value =>
    constructor
    · intro same
      cases same
      rfl
    · intro same
      cases same
      rfl

/-- A step for each item succeeds if every one of them does. -/
theorem forM_eq_ok_iff {items : List α} {step : α → Except ε Unit} :
    items.forM step = .ok () ↔ ∀ item ∈ items, step item = .ok () := by
  induction items with
  | nil => exact iff_of_true rfl fun _ member => absurd member List.not_mem_nil
  | cons item rest ih =>
    rw [List.forM_eq_forM] at ih ⊢
    rw [List.forM_cons, bind_eq_ok_iff, List.forall_mem_cons, ← ih]
    constructor
    · rintro ⟨⟨⟩, first, others⟩
      exact ⟨first, others⟩
    · rintro ⟨first, others⟩
      exact ⟨(), first, others⟩

/-- Every result of steps that were taken for a list is the result of one of them. -/
theorem exists_of_mem_mapM {items : List α} {step : α → Except ε β} {results : List β}
    (succeeded : items.mapM step = .ok results) {result : β} (member : result ∈ results) :
    ∃ item ∈ items, step item = .ok result := by
  induction items generalizing results with
  | nil =>
    rw [List.mapM_nil] at succeeded
    cases succeeded
    exact absurd member List.not_mem_nil
  | cons item rest ih =>
    rw [List.mapM_cons] at succeeded
    obtain ⟨first, taken, succeeded⟩ := bind_eq_ok_iff.1 succeeded
    obtain ⟨others, left, succeeded⟩ := bind_eq_ok_iff.1 succeeded
    cases succeeded
    rcases List.mem_cons.1 member with rfl | later
    · exact ⟨item, List.mem_cons_self, taken⟩
    · obtain ⟨found, inRest, same⟩ := ih left later
      exact ⟨found, List.mem_cons_of_mem _ inRest, same⟩

/-- Where steps were taken for a list, the step for each item succeeds. -/
theorem exists_ok_of_mapM {items : List α} {step : α → Except ε β} {results : List β}
    (succeeded : items.mapM step = .ok results) {item : α} (member : item ∈ items) :
    ∃ result, step item = .ok result := by
  induction items generalizing results with
  | nil => exact absurd member List.not_mem_nil
  | cons first rest ih =>
    rw [List.mapM_cons] at succeeded
    obtain ⟨result, taken, succeeded⟩ := bind_eq_ok_iff.1 succeeded
    obtain ⟨others, left, -⟩ := bind_eq_ok_iff.1 succeeded
    rcases List.mem_cons.1 member with rfl | later
    · exact ⟨result, taken⟩
    · exact ih left later

/-- Where steps for a list fail, the step for one of its items does. -/
theorem exists_error_of_mapM {items : List α} {step : α → Except ε β} {cause : ε}
    (failed : items.mapM step = .error cause) : ∃ item ∈ items, step item = .error cause := by
  induction items with
  | nil =>
    rw [List.mapM_nil] at failed
    contradiction
  | cons first rest ih =>
    rw [List.mapM_cons] at failed
    rcases bind_eq_error_iff.1 failed with here | ⟨result, -, failed⟩
    · exact ⟨first, List.mem_cons_self, here⟩
    rcases bind_eq_error_iff.1 failed with later | ⟨others, -, failed⟩
    · obtain ⟨item, member, same⟩ := ih later
      exact ⟨item, List.mem_cons_of_mem _ member, same⟩
    · contradiction

/-- Where steps were taken for a list, the results are those of its items. -/
theorem mem_iff_of_mapM {items : List α} {step : α → Except ε β} {results : List β}
    (succeeded : items.mapM step = .ok results) {result : β} :
    result ∈ results ↔ ∃ item ∈ items, step item = .ok result := by
  refine ⟨exists_of_mem_mapM succeeded, ?_⟩
  rintro ⟨item, member, taken⟩
  induction items generalizing results with
  | nil => exact absurd member List.not_mem_nil
  | cons first rest ih =>
    rw [List.mapM_cons] at succeeded
    obtain ⟨head, here, succeeded⟩ := bind_eq_ok_iff.1 succeeded
    obtain ⟨others, left, succeeded⟩ := bind_eq_ok_iff.1 succeeded
    cases succeeded
    rcases List.mem_cons.1 member with rfl | later
    · rw [here] at taken
      cases taken
      exact List.mem_cons_self
    · exact List.mem_cons_of_mem _ (ih left later)

/-- Steps for a list succeed exactly if the step for each item does. -/
theorem exists_mapM_eq_ok_iff {items : List α} {step : α → Except ε β} :
    (∃ results, items.mapM step = .ok results) ↔
      ∀ item ∈ items, ∃ result, step item = .ok result := by
  constructor
  · rintro ⟨results, succeeded⟩ item member
    exact exists_ok_of_mapM succeeded member
  · intro each
    cases taken : items.mapM step with
    | error cause =>
      obtain ⟨item, member, failed⟩ := exists_error_of_mapM taken
      obtain ⟨result, succeeded⟩ := each item member
      rw [failed] at succeeded
      contradiction
    | ok results => exact ⟨results, rfl⟩

/-- Steps for a list fail exactly if the step for one of its items does. -/
theorem exists_mapM_eq_error_iff {items : List α} {step : α → Except ε β} :
    (∃ cause, items.mapM step = .error cause) ↔
      ∃ item ∈ items, ∃ cause, step item = .error cause := by
  constructor
  · rintro ⟨cause, failed⟩
    obtain ⟨item, member, same⟩ := exists_error_of_mapM failed
    exact ⟨item, member, cause, same⟩
  · rintro ⟨item, member, cause, failed⟩
    cases taken : items.mapM step with
    | error other => exact ⟨other, rfl⟩
    | ok results =>
      obtain ⟨result, succeeded⟩ := exists_ok_of_mapM taken member
      rw [failed] at succeeded
      contradiction

/-- A step that is taken only under a condition, and the step after it. -/
theorem ite_bind_eq_ok_iff {condition : Prop} [Decidable condition] {step : Except ε Unit}
    {next : Unit → Except ε β} {result : β} :
    (if condition then step >>= next else next ()) = .ok result ↔
      (condition → step = .ok ()) ∧ next () = .ok result := by
  by_cases holds : condition
  · rw [if_pos holds, bind_eq_ok_iff]
    constructor
    · rintro ⟨⟨⟩, succeeded, after⟩
      exact ⟨fun _ => succeeded, after⟩
    · rintro ⟨succeeded, after⟩
      exact ⟨(), succeeded holds, after⟩
  · rw [if_neg holds]
    exact (and_iff_right fun impossible => absurd impossible holds).symm

/-- A condition under which everything fails does not hold where everything succeeds. -/
theorem error_eq_ok_iff {condition : Prop} {cause : ε} :
    (condition → (.error cause : Except ε Unit) = .ok ()) ↔ ¬ condition := by
  constructor
  · intro fails holds
    cases fails holds
  · intro never holds
    exact absurd holds never

/-- A last step that is taken only under a condition. -/
theorem ite_eq_ok_iff {condition : Prop} [Decidable condition] {step : Except ε Unit} :
    (if condition then step else pure ()) = .ok () ↔ (condition → step = .ok ()) := by
  by_cases holds : condition
  · rw [if_pos holds]
    exact (imp_iff_right holds).symm
  · rw [if_neg holds]
    exact iff_of_true rfl fun impossible => absurd impossible holds

end WalletCore
