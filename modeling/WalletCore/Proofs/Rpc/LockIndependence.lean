import WalletCore.Proofs.Rpc.LockBookkeeping

/-! # Locks do not depend on each other

Whether an origin can be locked in a set, and whether it is locked in the end, depends on the
acquisitions of this origin in this set and on the releases of their guards, and on nothing else. A
run without all the other acquisitions and releases (`restrict`) has the same outcomes
(`Alike.same_outcomes`). This needs that no guard replaces another one, since a replacement releases
the guard of any lock under the name of an acquisition of any other.
-/
namespace WalletCore.Rpc.LockRegistry

/-! ## What an operation concerns -/

/-- The guard that an acquisition asks for or that a release drops, if there is one. -/
def concerned? (registry : LockRegistry) : Operation → Option Guard
  | .acquire handle origin _ => (registry.handles.get? handle).map (⟨·, origin⟩)
  | .release name => registry.guards.get? name
  | .create _ | .share .. | .dropHandle _ => none

/-- Whether no guard is replaced by an operation. -/
def ReplacesNone (registry : LockRegistry) : Operation → Prop
  | .acquire handle origin name =>
    registry.acquire? handle origin name = none ∨ registry.guards.get? name = none
  | _ => True

/-- Whether no guard is replaced by some operations, one after the other. -/
def Plain (registry : LockRegistry) : List Operation → Prop
  | [] => True
  | operation :: rest => registry.ReplacesNone operation ∧ (registry.apply operation).Plain rest

/-- What remains of some operations without the acquisitions and releases of other guards. -/
def restrict (place : Guard) (registry : LockRegistry) : List Operation → List Operation
  | [] => []
  | operation :: rest =>
    if (registry.concerned? operation).all (· = place) then
      operation :: restrict place (registry.apply operation) rest
    else restrict place (registry.apply operation) rest

/-- The outcome of an operation, if it is an acquisition of a guard. -/
def outcome? (place : Guard) (registry : LockRegistry) : Operation → Option Bool
  | .acquire handle origin name =>
    if registry.concerned? (.acquire handle origin name) = some place then
      some (registry.acquire? handle origin name).isSome
    else none
  | _ => none

/-- The outcomes of the acquisitions of a guard among some operations. -/
def outcomes (place : Guard) (registry : LockRegistry) : List Operation → List Bool
  | [] => []
  | operation :: rest =>
    (registry.outcome? place operation).toList ++ outcomes place (registry.apply operation) rest

/-- What does not concern a guard has no outcome for it. -/
theorem outcome?_eq_none {place : Guard} {registry : LockRegistry} {operation : Operation}
    (apart : registry.concerned? operation ≠ some place) :
    registry.outcome? place operation = none := by
  cases operation with
  | acquire handle origin name => rw [outcome?, if_neg apart]
  | _ => rfl

/-! ## Registries that are alike -/

/-- Whether two registries have the same handles, and a guard under the same name. -/
structure Alike (place : Guard) (left right : LockRegistry) : Prop where
  /-- The first registry is sound. -/
  soundLeft : Sound left
  /-- The second registry is sound. -/
  soundRight : Sound right
  /-- The handles are the same. -/
  handles : left.handles = right.handles
  /-- There are as many sets. -/
  sets : left.sets.length = right.sets.length
  /-- The guard is stored under the same name. -/
  guard_iff : ∀ name, left.guards.get? name = some place ↔ right.guards.get? name = some place

namespace Alike

variable {place : Guard} {left right : LockRegistry} {operation : Operation}

/-- A sound registry is like itself. -/
theorem of_sound (place : Guard) (sound : Sound left) : Alike place left left :=
  ⟨sound, sound, rfl, rfl, fun _ => Iff.rfl⟩

/-- Registries that are alike hold the guard both or neither. -/
theorem holds_iff (alike : Alike place left right) : left.Holds place ↔ right.Holds place :=
  exists_congr alike.guard_iff

/-- Registries that are alike lock the origin of the guard both or neither. -/
theorem locks_iff (alike : Alike place left right) : left.Locks place ↔ right.Locks place := by
  rw [alike.soundLeft.locks_iff, alike.soundRight.locks_iff, alike.holds_iff]

/-- An operation concerns the guard in both registries or in neither. -/
theorem concerned?_iff (alike : Alike place left right) :
    left.concerned? operation = some place ↔ right.concerned? operation = some place := by
  cases operation with
  | acquire handle origin name => rw [concerned?, concerned?, alike.handles]
  | release name => exact alike.guard_iff name
  | create name => exact Iff.rfl
  | share handle name => exact Iff.rfl
  | dropHandle handle => exact Iff.rfl

/-- The guard is acquired in both registries or in neither. -/
theorem acquire?_isSome (alike : Alike place left right) {handle origin name : String}
    (concerns : left.concerned? (.acquire handle origin name) = some place) :
    (left.acquire? handle origin name).isSome = (right.acquire? handle origin name).isSome := by
  obtain ⟨set, here, rfl⟩ := Option.map_eq_some_iff.1 concerns
  rw [Bool.eq_iff_iff, Option.isSome_iff_exists, Option.isSome_iff_exists,
    alike.soundLeft.exists_acquire?_iff, alike.soundRight.exists_acquire?_iff, ← alike.handles, here]
  simp only [Option.some.injEq, exists_eq_left', alike.holds_iff]

/-- An operation has the same outcome in both registries. -/
theorem outcome?_eq (alike : Alike place left right) :
    left.outcome? place operation = right.outcome? place operation := by
  cases operation with
  | acquire handle origin name =>
    rw [outcome?, outcome?]
    by_cases concerns : left.concerned? (.acquire handle origin name) = some place
    · rw [if_pos concerns, if_pos (alike.concerned?_iff.1 concerns),
        alike.acquire?_isSome concerns]
    · rw [if_neg concerns, if_neg (mt alike.concerned?_iff.2 concerns)]
  | _ => rfl

/-- An operation on handles leads to the same handles in both registries. -/
theorem onHandles (alike : Alike place left right) (onHandles : operation.onHandles = true) :
    Alike place (left.apply operation) (right.apply operation) := by
  have handles : (left.apply operation).handles = (right.apply operation).handles ∧
      (left.apply operation).sets.length = (right.apply operation).sets.length := by
    cases operation with
    | create name => simp [apply, create, alike.handles, alike.sets]
    | share handle name =>
      simp only [apply, share?, alike.handles, Option.bind_eq_bind]
      cases right.handles.get? handle with
      | none => exact ⟨alike.handles, alike.sets⟩
      | some set => exact ⟨rfl, alike.sets⟩
    | dropHandle handle =>
      simp only [apply, dropHandle?, alike.handles]
      cases right.handles.get? handle with
      | none => exact ⟨alike.handles, alike.sets⟩
      | some set => exact ⟨rfl, alike.sets⟩
    | acquire handle origin guard => contradiction
    | release guard => contradiction
  refine ⟨alike.soundLeft.apply _, alike.soundRight.apply _, handles.1, handles.2, fun name => ?_⟩
  rw [(left.apply_onHandles onHandles).1, (right.apply_onHandles onHandles).1]
  exact alike.guard_iff name

/-- An acquisition of the guard succeeds in both registries, or in neither. -/
theorem acquire (alike : Alike place left right) {handle origin name : String}
    (concerns : left.concerned? (.acquire handle origin name) = some place) :
    Alike place (left.apply (.acquire handle origin name))
      (right.apply (.acquire handle origin name)) := by
  have same := alike.acquire?_isSome concerns
  have sound := alike.soundLeft.apply (.acquire handle origin name)
  have soundToo := alike.soundRight.apply (.acquire handle origin name)
  obtain ⟨set, here, rfl⟩ := Option.map_eq_some_iff.1 concerns
  simp only [apply] at sound soundToo ⊢
  cases first : left.acquire? handle origin name with
  | none =>
    rw [first, Option.isSome_none] at same
    rw [Option.isSome_eq_false_iff.1 same.symm |> Option.isNone_iff_eq_none.1]
    exact alike
  | some next =>
    rw [first, Option.isSome_some] at same
    obtain ⟨other, second⟩ := Option.isSome_iff_exists.1 same.symm
    rw [first] at sound
    rw [second] at soundToo ⊢
    have left := Acquired.of_handle here first
    have right := Acquired.of_handle (alike.handles ▸ here) second
    refine ⟨sound, soundToo, ?_, ?_, fun place => ?_⟩
    · exact left.handles.trans (alike.handles.trans right.handles.symm)
    · exact left.sets.trans (alike.sets.trans right.sets.symm)
    · rw [Option.getD_some, Option.getD_some, left.guards, right.guards, Members.get?_put,
        Members.get?_put]
      split
      · exact Iff.rfl
      · exact alike.guard_iff place

/-- A release leads to alike registries, whichever guards it drops in them. -/
theorem release (alike : Alike place left right) (name : String) :
    Alike place (left.apply (.release name)) (right.apply (.release name)) := by
  obtain ⟨handles, sets, guards⟩ := left.apply_release name
  obtain ⟨handlesToo, setsToo, guardsToo⟩ := right.apply_release name
  refine ⟨alike.soundLeft.apply _, alike.soundRight.apply _, ?_, ?_, fun other => ?_⟩
  · rw [handles, handlesToo, alike.handles]
  · rw [sets, setsToo, alike.sets]
  · rw [guards, guardsToo]
    split
    · exact Iff.rfl
    · exact alike.guard_iff other

/-- An operation that concerns the guard, or none, leads to alike registries. -/
theorem kept (alike : Alike place left right)
    (concerns : (left.concerned? operation).all (· = place) = true) :
    Alike place (left.apply operation) (right.apply operation) := by
  cases operation with
  | create name => exact alike.onHandles rfl
  | share handle name => exact alike.onHandles rfl
  | dropHandle handle => exact alike.onHandles rfl
  | release name => exact alike.release name
  | acquire handle origin name =>
    cases here : left.handles.get? handle with
    | none =>
      -- Without the handle the acquisition fails in both.
      have absent : ∀ {registry : LockRegistry}, registry.handles.get? handle = none →
          registry.apply (.acquire handle origin name) = registry := by
        intro registry missing
        rw [apply, acquire?, find?, missing]
        rfl
      rw [absent here, absent (alike.handles ▸ here)]
      exact alike
    | some set =>
      have asked : left.concerned? (.acquire handle origin name) = some ⟨set, origin⟩ := by
        rw [concerned?, here, Option.map_some]
      rw [asked, Option.all_some, decide_eq_true_iff] at concerns
      exact alike.acquire (concerns ▸ asked)

/-- An operation that concerns another guard may as well be left out, unless it replaces one. -/
theorem skipped (alike : Alike place left right) (plain : left.ReplacesNone operation)
    {other : Guard} (concerns : left.concerned? operation = some other) (apart : other ≠ place) :
    Alike place (left.apply operation) right := by
  have sound := alike.soundLeft.apply operation
  cases operation with
  | create name => contradiction
  | share handle name => contradiction
  | dropHandle handle => contradiction
  | release name =>
    obtain ⟨handles, sets, guards⟩ := left.apply_release name
    refine ⟨sound, alike.soundRight, handles.trans alike.handles, sets.trans alike.sets,
      fun held => ?_⟩
    rw [← alike.guard_iff, guards]
    split
    · rename_i same
      have dropped : left.guards.get? name = some other := concerns
      rw [same, dropped, Option.some.injEq]
      exact iff_of_false nofun apart
    · exact Iff.rfl
  | acquire handle origin name =>
    obtain ⟨set, here, rfl⟩ := Option.map_eq_some_iff.1 concerns
    rw [apply] at sound ⊢
    cases result : left.acquire? handle origin name with
    | none => exact alike
    | some next =>
      rw [result] at sound
      have acquired := Acquired.of_handle here result
      have fresh : left.guards.get? name = none := by
        rcases plain with failed | fresh
        · rw [result] at failed
          contradiction
        · exact fresh
      refine ⟨sound, alike.soundRight, acquired.handles.trans alike.handles,
        acquired.sets.trans alike.sets, fun held => ?_⟩
      rw [← alike.guard_iff, Option.getD_some, acquired.guards, Members.get?_put]
      split
      · rename_i same
        rw [same, fresh, Option.some.injEq]
        exact iff_of_false apart nofun
      · exact Iff.rfl

/-- A run and what remains of it for the guard have the same outcomes. -/
theorem same_outcomes (alike : Alike place left right) {operations : List Operation}
    (plain : left.Plain operations) :
    left.outcomes place operations = right.outcomes place (left.restrict place operations) ∧
      Alike place (left.run operations) (right.run (left.restrict place operations)) := by
  induction operations generalizing left right with
  | nil => exact ⟨rfl, alike⟩
  | cons operation rest ih =>
    obtain ⟨replacesNone, plainRest⟩ := plain
    rw [restrict, outcomes]
    by_cases concerns : (left.concerned? operation).all (· = place) = true
    · obtain ⟨same, final⟩ := ih (alike.kept concerns) plainRest
      rw [if_pos concerns, outcomes, alike.outcome?_eq, same]
      exact ⟨rfl, final⟩
    · have stranger : ∃ other, left.concerned? operation = some other ∧ other ≠ place := by
        cases asked : left.concerned? operation with
        | none =>
          rw [asked] at concerns
          exact absurd rfl concerns
        | some other =>
          rw [asked, Option.all_some, decide_eq_true_iff] at concerns
          exact ⟨other, rfl, concerns⟩
      obtain ⟨other, asked, apart⟩ := stranger
      have silent : left.outcome? place operation = none :=
        outcome?_eq_none fun again => apart (Option.some.inj (asked.symm.trans again))
      obtain ⟨same, final⟩ := ih (alike.skipped replacesNone asked apart) plainRest
      rw [if_neg concerns, silent, same]
      exact ⟨rfl, final⟩

end Alike

/-- Locks follow their guards. After any operations each set contains exactly the origins of the
guards in it and is of their number, and no two guards lock the same origin in one set. An origin is
locked through a handle exactly if no guard in its set locks it; a failure changes nothing, and a
success changes what `Acquired` says. A guard is dropped whatever handles there are, and unlocks its
own origin in its own set. A handle that is created is one to a set of its own, a handle that is
shared one to the same set, and neither guards nor locks change. Where no guard is replaced, the
acquisitions of one guard have the same outcomes, and its origin is locked in the end or not, as if
there were no acquisitions and releases of other guards. -/
theorem locks_follow_guards (operations : List Operation) :
    let registry := empty.run operations
    (∀ set locks, registry.sets[set]? = some locks →
      (∀ origin, locks.isLocked origin = true ↔ registry.Holds ⟨set, origin⟩) ∧
        locks.size = (registry.guards.entries.filter fun entry => entry.2.set = set).length) ∧
    (∀ first second guard, registry.guards.get? first = some guard →
      registry.guards.get? second = some guard → first = second) ∧
    (∀ handle set origin name, registry.handles.get? handle = some set →
      ((∃ next, registry.acquire? handle origin name = some next) ↔
        ¬ registry.Holds ⟨set, origin⟩) ∧
      (registry.acquire? handle origin name = none →
        registry.apply (.acquire handle origin name) = registry) ∧
      ∀ next, registry.acquire? handle origin name = some next →
        Acquired registry ⟨set, origin⟩ name next) ∧
    (∀ name guard, registry.guards.get? name = some guard →
      ∃ next, registry.release? name = some next ∧ Released registry guard name next) ∧
    (∀ name, (registry.create name).find? name = some (registry.sets.length, .empty)) ∧
    (∀ handle name, (registry.share? handle name).bind (·.find? name) = registry.find? handle) ∧
    (∀ operation, operation.onHandles = true →
      (registry.apply operation).guards = registry.guards ∧
        ∀ guard, (registry.apply operation).Locks guard ↔ registry.Locks guard) ∧
    (∀ place steps, registry.Plain steps →
      registry.outcomes place steps =
          registry.outcomes place (registry.restrict place steps) ∧
        ((registry.run steps).Locks place ↔
          (registry.run (registry.restrict place steps)).Locks place)) := by
  intro registry
  have sound : Sound registry := Sound.empty.run operations
  refine ⟨?sets, sound.alone, ?acquisitions, fun _ _ => released_of_get?, registry.find?_create,
    registry.find?_share, fun _ => registry.apply_onHandles, ?independence⟩
  case sets =>
    intro set locks found
    refine ⟨fun origin => ?_, sound.size_eq found⟩
    rw [← sound.locks_iff, Locks, found, LockSet.isLocked, List.contains_iff_mem]
    simp only [Option.some.injEq, exists_eq_left']
  case acquisitions =>
    intro handle set origin name here
    refine ⟨?_, fun failed => ?_, fun next => Acquired.of_handle here⟩
    · rw [sound.exists_acquire?_iff, here]
      simp only [Option.some.injEq, exists_eq_left']
    · rw [apply, failed, Option.getD_none]
  case independence =>
    intro place steps plain
    obtain ⟨same, final⟩ := (Alike.of_sound place sound).same_outcomes plain
    exact ⟨same, final.locks_iff⟩

/-- A guard whose set has no handle left is dropped, and meanwhile an origin is locked, unlocked and
locked in another set as if nothing else happened. -/
theorem locks_follow_guards_of_orphan :
    let registry := empty.run
      [.create "first", .acquire "first" "a" "guard", .dropHandle "first", .create "second"]
    let steps : List Operation :=
      [.acquire "second" "a" "key", .acquire "second" "b" "other", .acquire "second" "a" "more",
        .release "guard", .release "key", .acquire "second" "a" "key"]
    (registry.handles.get? "first" = none ∧
      ∃ next, registry.release? "guard" = some next ∧
        Released registry ⟨0, "a"⟩ "guard" next) ∧
    registry.Plain steps ∧
    registry.outcomes ⟨1, "a"⟩ steps = [true, false, true] ∧
    registry.outcomes ⟨1, "a"⟩ (registry.restrict ⟨1, "a"⟩ steps) = [true, false, true] := by
  intro registry steps
  obtain ⟨-, -, -, release, -, -, -, independence⟩ := locks_follow_guards
    [.create "first", .acquire "first" "a" "guard", .dropHandle "first", .create "second"]
  have plain : registry.Plain steps :=
    ⟨.inr (by decide), .inr (by decide), .inl (by decide), trivial, trivial, .inr (by decide),
      trivial⟩
  have outcomes : registry.outcomes ⟨1, "a"⟩ steps = [true, false, true] := by decide
  obtain ⟨same, -⟩ := independence ⟨1, "a"⟩ steps plain
  exact ⟨⟨by decide, release "guard" ⟨0, "a"⟩ (by decide)⟩, plain, outcomes,
    same.symm.trans outcomes⟩

/-- A replaced guard gives its origin back, to the benefit of a later acquisition. -/
example :
    let registry := single "handle"
    let steps : List Operation :=
      [.acquire "handle" "a" "guard", .acquire "handle" "b" "guard", .acquire "handle" "a" "more"]
    registry.outcomes ⟨0, "a"⟩ steps = [true, true] ∧
      registry.outcomes ⟨0, "a"⟩ (registry.restrict ⟨0, "a"⟩ steps) = [true, false] := by
  decide

end WalletCore.Rpc.LockRegistry
