/-! # Repeated items

Names that are registered one after another must be new: not taken before, and not among those
registered earlier. The first name that is not new stops the registration. `FirstClash` says which
one that is, `firstClash_cons_iff` follows a registration step by step, and `exists_firstClash_iff`
says when there is one.
-/
namespace WalletCore

variable {α : Type} {taken : α → Prop}

/-- Whether an item is the first of some items that is taken or repeats an earlier one. -/
inductive FirstClash (taken : α → Prop) : List α → α → Prop where
  /-- The items before it are distinct and not taken, and it is taken or one of them. -/
  | after {earlier later : List α} {item : α} (distinct : earlier.Nodup)
      (apart : ∀ other ∈ earlier, ¬ taken other) (clash : taken item ∨ item ∈ earlier) :
    FirstClash taken (earlier ++ item :: later) item

/-- Among no items none clashes. -/
theorem not_firstClash_nil (item : α) : ¬ FirstClash taken [] item := by
  generalize whole : ([] : List α) = items
  intro clash
  cases clash
  simp at whole

/-- The first item clashes, or it is taken from then on and one of the others clashes. -/
theorem firstClash_cons_iff {first item : α} {others : List α} :
    FirstClash taken (first :: others) item ↔
      (taken first ∧ item = first) ∨
        (¬ taken first ∧ FirstClash (fun other => other = first ∨ taken other) others item) := by
  constructor
  · generalize whole : first :: others = items
    intro clash
    cases clash with
    | @after earlier later item distinct apart again =>
      cases earlier with
      | nil =>
        cases whole
        exact .inl ⟨again.resolve_right List.not_mem_nil, rfl⟩
      | cons front earlier =>
        cases whole
        obtain ⟨fresh, tail⟩ := List.nodup_cons.1 distinct
        obtain ⟨free, others⟩ := List.forall_mem_cons.1 apart
        refine .inr ⟨free, .after tail (fun other member => ?_) ?_⟩
        · intro known
          rcases known with same | before
          · exact fresh (same ▸ member)
          · exact others other member before
        · rcases again with before | member
          · exact .inl (.inr before)
          · rcases List.mem_cons.1 member with same | later
            · exact .inl (.inl same)
            · exact .inr later
  · intro clash
    rcases clash with ⟨known, same⟩ | ⟨free, clash⟩
    · rw [same]
      show FirstClash taken ([] ++ first :: others) first
      exact .after List.nodup_nil (List.forall_mem_nil _) (.inl known)
    · cases clash with
      | @after earlier later item distinct apart again =>
        have fresh : first ∉ earlier := fun member => apart first member (.inl rfl)
        show FirstClash taken ((first :: earlier) ++ item :: later) item
        refine .after (List.nodup_cons.2 ⟨fresh, distinct⟩) ?_ ?_
        · exact List.forall_mem_cons.2 ⟨free, fun other member before =>
            apart other member (.inr before)⟩
        · rcases again with (same | before) | member
          · exact .inr (same ▸ List.mem_cons_self)
          · exact .inl before
          · exact .inr (List.mem_cons_of_mem _ member)

/-- Some item clashes exactly if the items are not distinct or one of them is taken. -/
theorem exists_firstClash_iff {items : List α} :
    (∃ item, FirstClash taken items item) ↔
      ¬ (items.Nodup ∧ ∀ item ∈ items, ¬ taken item) := by
  induction items generalizing taken with
  | nil =>
    refine iff_of_false (fun clash => ?_) fun clear => ?_
    · obtain ⟨item, clash⟩ := clash
      exact not_firstClash_nil item clash
    · exact clear ⟨List.nodup_nil, List.forall_mem_nil _⟩
  | cons first others ih =>
    have later : (first :: others).Nodup ∧ (∀ item ∈ first :: others, ¬ taken item) ↔
        ¬ taken first ∧ others.Nodup ∧ ∀ item ∈ others, ¬ (item = first ∨ taken item) := by
      rw [List.nodup_cons, List.forall_mem_cons]
      constructor
      · intro ⟨⟨fresh, distinct⟩, free, apart⟩
        refine ⟨free, distinct, fun item member known => ?_⟩
        rcases known with same | before
        · exact fresh (same ▸ member)
        · exact apart item member before
      · intro ⟨free, distinct, apart⟩
        have fresh : first ∉ others := fun member => apart first member (.inl rfl)
        exact ⟨⟨fresh, distinct⟩, free, fun item member before => apart item member (.inr before)⟩
    rw [later]
    by_cases known : taken first
    · refine iff_of_true ⟨first, firstClash_cons_iff.2 (.inl ⟨known, rfl⟩)⟩ ?_
      intro clear
      exact clear.1 known
    · simp only [firstClash_cons_iff, known, not_false_eq_true, false_and, true_and, false_or]
      exact ih

end WalletCore
