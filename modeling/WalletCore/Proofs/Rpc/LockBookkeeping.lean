import WalletCore.Proofs.Members
import WalletCore.Proofs.Rpc.LockDiscipline
import WalletCore.Rpc.LockRegistry

/-! # The bookkeeping of shared lock sets

Lock sets are created, shared, locked and unlocked in any order. What one operation does is said
once: an acquisition stores one guard (`Acquired`), a release takes one away (`Released`), and the
operations on handles leave guards and locks alone. From that follows what holds after any number of
operations (`Sound.run`): the locks are those of the guards that are stored, no two of which lock
the same origin in one set.
-/
namespace WalletCore.Rpc.LockRegistry

/-! ## Operations -/

/-- An operation on a registry. -/
inductive Operation where
  /-- A handle to a new set is stored. -/
  | create (name : String)
  /-- A further handle to the set of a handle is stored. -/
  | share (handle name : String)
  /-- A handle is dropped. -/
  | dropHandle (handle : String)
  /-- An origin is locked through a handle, and the guard is stored. -/
  | acquire (handle origin guard : String)
  /-- A guard is dropped. -/
  | release (guard : String)
deriving DecidableEq

/-- Whether an operation is one on handles. -/
def Operation.onHandles : Operation → Bool
  | .create _ | .share .. | .dropHandle _ => true
  | .acquire .. | .release _ => false

/-- No set, no handle and no guard. -/
def empty : LockRegistry := ⟨[], .empty, .empty⟩

/-- The registry after an operation, the same one if the operation fails. -/
def apply (registry : LockRegistry) : Operation → LockRegistry
  | .create name => registry.create name
  | .share handle name => (registry.share? handle name).getD registry
  | .dropHandle handle => (registry.dropHandle? handle).getD registry
  | .acquire handle origin guard => (registry.acquire? handle origin guard).getD registry
  | .release guard => (registry.release? guard).getD registry

/-- The registry after some operations, one after the other. -/
def run (registry : LockRegistry) (operations : List Operation) : LockRegistry :=
  operations.foldl apply registry

/-- Whether the origin of a guard is locked in its set. -/
def Locks (registry : LockRegistry) (guard : Guard) : Prop :=
  ∃ locks, registry.sets[guard.set]? = some locks ∧ guard.origin ∈ locks.origins

/-- Whether a guard is stored. -/
def Holds (registry : LockRegistry) (guard : Guard) : Prop :=
  ∃ name, registry.guards.get? name = some guard

variable {registry next : LockRegistry} {handle origin name : String} {set : Nat}
  {guard other : Guard} {locks : LockSet}

/-! ## What an operation does -/

/-- A guard is known by its set and its origin. -/
theorem guard_eq_iff : other = guard ↔ other.set = guard.set ∧ other.origin = guard.origin := by
  cases guard
  cases other
  exact Guard.mk.injEq .. ▸ Iff.rfl

/-- What is locked in a set after it was changed. -/
theorem locks_changeSet_self {change : LockSet → LockSet} :
    (registry.changeSet guard.set change).Locks guard ↔
      ∃ locks, registry.sets[guard.set]? = some locks ∧
        guard.origin ∈ (change locks).origins := by
  simp only [Locks, changeSet, List.getElem?_modify, Option.map_eq_map, Option.map_eq_some_iff,
    if_true]
  constructor
  · intro ⟨changed, ⟨locks, found, same⟩, locked⟩
    exact ⟨locks, found, same ▸ locked⟩
  · intro ⟨locks, found, locked⟩
    exact ⟨_, ⟨locks, found, rfl⟩, locked⟩

/-- A change of one set leaves what is locked in another one. -/
theorem locks_changeSet_of_ne {change : LockSet → LockSet} (apart : set ≠ guard.set) :
    (registry.changeSet set change).Locks guard ↔ registry.Locks guard := by
  simp only [Locks, changeSet, List.getElem?_modify, if_neg apart, Option.map_eq_map,
    Option.map_id']

/-- A guard that is dropped unlocks its own origin in its own set and no other. -/
theorem locks_drop : (registry.drop guard).Locks other ↔ registry.Locks other ∧ other ≠ guard := by
  rw [drop]
  by_cases same : guard.set = other.set
  · rw [same, locks_changeSet_self, Ne, guard_eq_iff, and_iff_right same.symm]
    simp only [LockSet.mem_release, Locks]
    constructor
    · intro ⟨locks, found, locked, different⟩
      exact ⟨⟨locks, found, locked⟩, different⟩
    · intro ⟨⟨locks, found, locked⟩, different⟩
      exact ⟨locks, found, locked, different⟩
  · rw [locks_changeSet_of_ne same]
    refine (and_iff_left fun whole => ?_).symm
    exact same (by rw [whole])

/-- A registry in which a guard is stored and its origin is locked. -/
def storeLocked (registry : LockRegistry) (name : String) (guard : Guard) (taken : LockSet) :
    LockRegistry :=
  { registry.changeSet guard.set fun _ => taken with guards := registry.guards.put name guard }

/-- An origin that is locked in a set is the only one that is locked thereby. -/
theorem locks_storeLocked {taken : LockSet} (found : registry.sets[guard.set]? = some locks)
    (origins : taken.origins = guard.origin :: locks.origins) :
    (registry.storeLocked name guard taken).Locks other ↔ other = guard ∨ registry.Locks other := by
  have changed : (registry.storeLocked name guard taken).Locks other ↔
      (registry.changeSet guard.set fun _ => taken).Locks other := Iff.rfl
  rw [changed]
  by_cases same : guard.set = other.set
  · have before : registry.Locks other ↔ other.origin ∈ locks.origins := by
      rw [same] at found
      simp only [Locks, found, Option.some.injEq, exists_eq_left']
    rw [guard_eq_iff, and_iff_right same.symm, before, same, locks_changeSet_self, origins,
      List.mem_cons]
    rw [same] at found
    exact ⟨fun ⟨_, _, locked⟩ => locked, fun locked => ⟨locks, found, locked⟩⟩
  · rw [locks_changeSet_of_ne same]
    refine (or_iff_right fun whole => ?_).symm
    exact same (by rw [whole])

/-- A registry after a guard was acquired and stored, which replaces the guard of the same name. -/
structure Acquired (registry : LockRegistry) (guard : Guard) (name : String)
    (next : LockRegistry) : Prop where
  /-- The handles are the same. -/
  handles : next.handles = registry.handles
  /-- There are as many sets. -/
  sets : next.sets.length = registry.sets.length
  /-- The guard is stored. -/
  guards : next.guards = registry.guards.put name guard
  /-- The guard locks its origin, and the one that it replaces no longer locks its own. -/
  locks_iff : ∀ other, next.Locks other ↔
    (other = guard ∨ registry.Locks other) ∧ registry.guards.get? name ≠ some other

/-- A registry after a guard was dropped. -/
structure Released (registry : LockRegistry) (guard : Guard) (name : String)
    (next : LockRegistry) : Prop where
  /-- The handles are the same. -/
  handles : next.handles = registry.handles
  /-- There are as many sets. -/
  sets : next.sets.length = registry.sets.length
  /-- The guard is no longer stored. -/
  guards : next.guards = registry.guards.remove name
  /-- The guard no longer locks its origin. -/
  locks_iff : ∀ other, next.Locks other ↔ registry.Locks other ∧ other ≠ guard

/-- The set of a handle. -/
theorem find?_eq_some_iff :
    registry.find? handle = some (set, locks) ↔
      registry.handles.get? handle = some set ∧ registry.sets[set]? = some locks := by
  simp only [find?, Option.bind_eq_bind, Option.bind_eq_some_iff]
  constructor
  · intro ⟨found, here, locks, there, same⟩
    cases same
    exact ⟨here, there⟩
  · intro ⟨here, there⟩
    exact ⟨set, here, locks, there, rfl⟩

/-- A handle that is created is one to a set of its own, in which nothing is locked. -/
theorem find?_create (registry : LockRegistry) (name : String) :
    (registry.create name).find? name = some (registry.sets.length, .empty) := by
  refine find?_eq_some_iff.2 ⟨?_, List.getElem?_concat_length⟩
  rw [create, Members.get?_put, if_pos rfl]

/-- A handle that is shared is one to the set of the handle that it was obtained from. -/
theorem find?_share (registry : LockRegistry) (handle name : String) :
    (registry.share? handle name).bind (·.find? name) = registry.find? handle := by
  rw [share?, find?]
  cases registry.handles.get? handle with
  | none => rfl
  | some set =>
    have stored : (registry.handles.put name set).get? name = some set := by
      rw [Members.get?_put, if_pos rfl]
    simp only [Option.bind_eq_bind, Option.bind_some, find?, stored]

/-- An acquisition takes a free origin in the set of a handle, and drops the guard that it
replaces. -/
theorem acquire?_eq_some_iff :
    registry.acquire? handle origin name = some next ↔
      ∃ set locks taken, registry.handles.get? handle = some set ∧
        registry.sets[set]? = some locks ∧ locks.acquire? origin = some taken ∧
        (registry.guards.get? name).elim (registry.storeLocked name ⟨set, origin⟩ taken)
          (registry.storeLocked name ⟨set, origin⟩ taken).drop = next := by
  simp only [acquire?, Option.bind_eq_bind, Option.bind_eq_some_iff, Prod.exists,
    find?_eq_some_iff, Option.some.injEq]
  constructor
  · intro ⟨set, locks, ⟨here, found⟩, taken, acquired, same⟩
    exact ⟨set, locks, taken, here, found, acquired, same⟩
  · intro ⟨set, locks, taken, here, found, acquired, same⟩
    exact ⟨set, locks, ⟨here, found⟩, taken, acquired, same⟩

/-- What is locked through a handle is locked in its set, where it was not locked before. -/
theorem acquired_of_acquire? (acquired : registry.acquire? handle origin name = some next) :
    ∃ set, registry.handles.get? handle = some set ∧ ¬ registry.Locks ⟨set, origin⟩ ∧
      Acquired registry ⟨set, origin⟩ name next := by
  obtain ⟨set, locks, taken, here, found, took, same⟩ := acquire?_eq_some_iff.1 acquired
  obtain ⟨fresh, origins⟩ := LockSet.acquire?_eq_some_iff.1 took
  have free : ¬ registry.Locks ⟨set, origin⟩ := by
    intro ⟨others, again, locked⟩
    rw [show registry.sets[set]? = some others from again] at found
    cases found
    exact fresh locked
  have stored : ∀ other, (registry.storeLocked name ⟨set, origin⟩ taken).Locks other ↔
      other = ⟨set, origin⟩ ∨ registry.Locks other := fun _ => locks_storeLocked found origins
  refine ⟨set, here, free, ?_⟩
  cases former : registry.guards.get? name with
  | none =>
    rw [former, Option.elim_none] at same
    rw [← same]
    refine ⟨rfl, List.length_modify _ _ _, rfl, fun other => ?_⟩
    rw [stored, former]
    exact (and_iff_left nofun).symm
  | some replaced =>
    rw [former, Option.elim_some] at same
    rw [← same]
    refine ⟨rfl, ?_, rfl, fun other => ?_⟩
    · exact (List.length_modify _ _ _).trans (List.length_modify _ _ _)
    · rw [locks_drop, stored, former, ne_comm, Ne, Ne, Option.some.injEq]

/-- What is acquired through a handle is a guard in the set of the handle. -/
theorem Acquired.of_handle (here : registry.handles.get? handle = some set)
    (result : registry.acquire? handle origin name = some next) :
    Acquired registry ⟨set, origin⟩ name next := by
  obtain ⟨_, found, -, acquired⟩ := acquired_of_acquire? result
  rw [here] at found
  cases found
  exact acquired

/-- A guard is released if there is one of that name. -/
theorem released_of_get? (found : registry.guards.get? name = some guard) :
    ∃ next, registry.release? name = some next ∧ Released registry guard name next := by
  refine ⟨drop { registry with guards := registry.guards.remove name } guard, ?_, rfl, ?_, rfl, ?_⟩
  · rw [release?, found]
    rfl
  · exact List.length_modify _ _ _
  · intro other
    exact locks_drop

/-- After a release there is no guard of that name, whether or not there was one. -/
theorem apply_release (registry : LockRegistry) (name : String) :
    (registry.apply (.release name)).handles = registry.handles ∧
      (registry.apply (.release name)).sets.length = registry.sets.length ∧
      ∀ other, (registry.apply (.release name)).guards.get? other =
        if other = name then none else registry.guards.get? other := by
  rw [apply]
  cases held : registry.guards.get? name with
  | none =>
    have failed : registry.release? name = none := by rw [release?, held]; rfl
    rw [failed, Option.getD_none]
    refine ⟨rfl, rfl, fun other => ?_⟩
    by_cases same : other = name
    · rw [if_pos same, same, held]
    · rw [if_neg same]
  | some guard =>
    obtain ⟨next, result, released⟩ := released_of_get? held
    rw [result, Option.getD_some]
    refine ⟨released.handles, released.sets, fun other => ?_⟩
    rw [released.guards, Members.get?_remove]

/-- The operations on handles leave the guards as they are, and what is locked. -/
theorem apply_onHandles (registry : LockRegistry) {operation : Operation}
    (handles : operation.onHandles = true) :
    (registry.apply operation).guards = registry.guards ∧
      ∀ guard, (registry.apply operation).Locks guard ↔ registry.Locks guard := by
  cases operation with
  | create name =>
    refine ⟨rfl, fun guard => ?_⟩
    simp only [Locks, apply, create, List.getElem?_append]
    by_cases old : guard.set < registry.sets.length
    · rw [if_pos old]
    · rw [if_neg old, List.getElem?_eq_none (Nat.le_of_not_lt old)]
      refine iff_of_false (fun locked => ?_) (fun locked => ?_)
      · obtain ⟨locks, found, member⟩ := locked
        rw [List.mem_singleton.1 (List.mem_of_getElem? found)] at member
        exact List.not_mem_nil member
      · obtain ⟨locks, found, -⟩ := locked
        contradiction
  | share handle name =>
    rw [apply, share?]
    cases registry.handles.get? handle with
    | none => exact ⟨rfl, fun _ => Iff.rfl⟩
    | some set => exact ⟨rfl, fun _ => Iff.rfl⟩
  | dropHandle handle =>
    rw [apply, dropHandle?]
    cases registry.handles.get? handle with
    | none => exact ⟨rfl, fun _ => Iff.rfl⟩
    | some set => exact ⟨rfl, fun _ => Iff.rfl⟩
  | acquire handle origin guard => contradiction
  | release guard => contradiction

/-! ## What holds after any operations -/

/-- What holds of a registry after any number of operations. -/
structure Sound (registry : LockRegistry) : Prop where
  /-- The locked origins are those of the guards that are stored. -/
  locks_iff : ∀ guard, registry.Locks guard ↔ registry.Holds guard
  /-- No two guards that are stored lock the same origin in one set. -/
  alone : ∀ first second guard, registry.guards.get? first = some guard →
    registry.guards.get? second = some guard → first = second
  /-- Every handle is one to a set. -/
  within : ∀ handle set, registry.handles.get? handle = some set → set < registry.sets.length

namespace Sound

/-- Without sets there are no guards and no handles. -/
theorem empty : Sound empty where
  locks_iff _ := iff_of_false nofun nofun
  alone _ _ _ found := nomatch found
  within _ _ found := nomatch found

/-- An acquisition keeps a registry sound. -/
theorem acquired (sound : Sound registry) (free : ¬ registry.Locks guard)
    (acquired : Acquired registry guard name next) : Sound next := by
  have new : ¬ registry.Holds guard := mt (sound.locks_iff guard).2 free
  have found : ∀ other, next.guards.get? other =
      if other = name then some guard else registry.guards.get? other := by
    intro other
    rw [acquired.guards, Members.get?_put]
  refine ⟨fun other => ?_, fun first second other here there => ?_, ?_⟩
  · rw [acquired.locks_iff, sound.locks_iff]
    constructor
    · intro ⟨locked, kept⟩
      rcases locked with rfl | ⟨place, held⟩
      · exact ⟨name, by rw [found, if_pos rfl]⟩
      · have apart : place ≠ name := fun same => kept (same ▸ held)
        exact ⟨place, by rw [found, if_neg apart, held]⟩
    · intro ⟨place, held⟩
      rw [found] at held
      by_cases same : place = name
      · rw [if_pos same] at held
        cases held
        exact ⟨.inl rfl, fun held => new ⟨name, held⟩⟩
      · rw [if_neg same] at held
        exact ⟨.inr ⟨place, held⟩, fun again => same (sound.alone _ _ _ held again)⟩
  · rw [found] at here there
    by_cases left : first = name
    · rw [if_pos left] at here
      cases here
      by_cases right : second = name
      · rw [left, right]
      · rw [if_neg right] at there
        exact absurd ⟨second, there⟩ new
    · rw [if_neg left] at here
      by_cases right : second = name
      · rw [if_pos right] at there
        cases there
        exact absurd ⟨first, here⟩ new
      · rw [if_neg right] at there
        exact sound.alone _ _ _ here there
  · rw [acquired.handles, acquired.sets]
    exact sound.within

/-- A release keeps a registry sound. -/
theorem released (sound : Sound registry) (held : registry.guards.get? name = some guard)
    (released : Released registry guard name next) : Sound next := by
  have found : ∀ other, next.guards.get? other =
      if other = name then none else registry.guards.get? other := by
    intro other
    rw [released.guards, Members.get?_remove]
  have kept : ∀ {place other}, next.guards.get? place = some other →
      place ≠ name ∧ registry.guards.get? place = some other := by
    intro place other there
    rw [found] at there
    by_cases same : place = name
    · rw [if_pos same] at there
      contradiction
    · rw [if_neg same] at there
      exact ⟨same, there⟩
  refine ⟨fun other => ?_, fun first second other here there => ?_, ?_⟩
  · rw [released.locks_iff, sound.locks_iff]
    constructor
    · intro ⟨⟨place, there⟩, different⟩
      have apart : place ≠ name := by
        intro same
        rw [same, held] at there
        exact different (Option.some.inj there).symm
      exact ⟨place, by rw [found, if_neg apart, there]⟩
    · intro ⟨place, there⟩
      obtain ⟨apart, there⟩ := kept there
      refine ⟨⟨place, there⟩, fun same => ?_⟩
      rw [same] at there
      exact apart (sound.alone _ _ _ there held)
  · exact sound.alone _ _ _ (kept here).2 (kept there).2
  · rw [released.handles, released.sets]
    exact sound.within

/-- After an operation on handles every handle is one to a set. -/
theorem within_apply (sound : Sound registry) {operation : Operation}
    (onHandles : operation.onHandles = true) :
    ∀ handle set, (registry.apply operation).handles.get? handle = some set →
      set < (registry.apply operation).sets.length := by
  cases operation with
  | create name =>
    have longer : (registry.apply (.create name)).sets.length = registry.sets.length + 1 :=
      List.length_append
    rw [longer]
    refine Members.forall_get?_put ?_ ?_ name
    · intro handle set found
      exact Nat.lt_succ_of_lt (sound.within handle set found)
    · exact Nat.lt_succ_self _
  | share source name =>
    rw [LockRegistry.apply, share?]
    cases shared : registry.handles.get? source with
    | none => exact sound.within
    | some set => exact Members.forall_get?_put sound.within (sound.within source set shared) name
  | dropHandle dropped =>
    rw [LockRegistry.apply, dropHandle?]
    cases registry.handles.get? dropped with
    | none => exact sound.within
    | some set => exact Members.forall_get?_remove sound.within dropped
  | acquire handle origin guard => contradiction
  | release guard => contradiction

/-- An operation on handles keeps a registry sound. -/
theorem onHandles (sound : Sound registry) {operation : Operation}
    (onHandles : operation.onHandles = true) : Sound (registry.apply operation) := by
  obtain ⟨guards, locks⟩ := registry.apply_onHandles onHandles
  refine ⟨fun guard => ?_, ?_, sound.within_apply onHandles⟩
  · rw [locks, sound.locks_iff, Holds, Holds, guards]
  · rw [guards]
    exact sound.alone

/-- Every operation keeps a registry sound. -/
theorem apply (sound : Sound registry) (operation : Operation) :
    Sound (registry.apply operation) := by
  cases operation with
  | create name => exact sound.onHandles rfl
  | share handle name => exact sound.onHandles rfl
  | dropHandle handle => exact sound.onHandles rfl
  | acquire handle origin name =>
    rw [LockRegistry.apply]
    cases result : registry.acquire? handle origin name with
    | none => exact sound
    | some next =>
      obtain ⟨set, -, free, acquired⟩ := acquired_of_acquire? result
      exact sound.acquired free acquired
  | release name =>
    rw [LockRegistry.apply]
    cases held : registry.guards.get? name with
    | none =>
      rw [release?, held]
      exact sound
    | some guard =>
      obtain ⟨next, result, released⟩ := released_of_get? held
      rw [result]
      exact sound.released held released

/-- Operations, one after the other, keep a registry sound. -/
theorem run (sound : Sound registry) (operations : List Operation) :
    Sound (registry.run operations) := by
  induction operations generalizing registry with
  | nil => exact sound
  | cons operation rest ih => exact ih (sound.apply operation)

/-- An origin is locked through a handle exactly if no guard in the set of the handle locks it. -/
theorem exists_acquire?_iff (sound : Sound registry) :
    (∃ next, registry.acquire? handle origin name = some next) ↔
      ∃ set, registry.handles.get? handle = some set ∧ ¬ registry.Holds ⟨set, origin⟩ := by
  constructor
  · intro ⟨next, result⟩
    obtain ⟨set, here, free, -⟩ := acquired_of_acquire? result
    exact ⟨set, here, mt (sound.locks_iff _).2 free⟩
  · intro ⟨set, here, free⟩
    have below : set < registry.sets.length := sound.within handle set here
    have found : registry.sets[set]? = some registry.sets[set] := List.getElem?_eq_getElem below
    have fresh : origin ∉ registry.sets[set].origins := fun locked =>
      free ((sound.locks_iff ⟨set, origin⟩).1 ⟨_, found, locked⟩)
    cases took : registry.sets[set].acquire? origin with
    | none => exact absurd (LockSet.acquire?_eq_none_iff.1 took) fresh
    | some taken => exact ⟨_, acquire?_eq_some_iff.2 ⟨set, _, taken, here, found, took, rfl⟩⟩

/-- A set has as many locked origins as there are guards in it. -/
theorem size_eq (sound : Sound registry) (found : registry.sets[set]? = some locks) :
    locks.size = (registry.guards.entries.filter fun entry => entry.2.set = set).length := by
  have stored : ∀ {entry}, entry ∈ registry.guards.entries ↔
      registry.guards.get? entry.1 = some entry.2 :=
    (Entries.lookup_eq_some_iff registry.guards.nodup).symm
  have names : registry.guards.entries.Pairwise fun first second => first.1 ≠ second.1 :=
    List.pairwise_map.1 registry.guards.nodup
  have distinct : ((registry.guards.entries.filter fun entry => entry.2.set = set).map
      (·.2.origin)).Nodup := by
    refine List.pairwise_map.2 ((names.filter _).imp_of_mem ?_)
    intro first second here there apart same
    obtain ⟨here, inSet⟩ := List.mem_filter.1 here
    obtain ⟨there, alike⟩ := List.mem_filter.1 there
    have guards : first.2 = second.2 :=
      guard_eq_iff.2 ⟨(of_decide_eq_true inSet).trans (of_decide_eq_true alike).symm, same⟩
    exact apart (sound.alone _ _ _ (stored.1 here) (guards ▸ stored.1 there))
  have members : ∀ origin, origin ∈ locks.origins ↔
      origin ∈ (registry.guards.entries.filter fun entry => entry.2.set = set).map
        (·.2.origin) := by
    intro origin
    have locked : registry.Locks ⟨set, origin⟩ ↔ origin ∈ locks.origins := by
      simp only [Locks, found, Option.some.injEq, exists_eq_left']
    rw [← locked, sound.locks_iff, List.mem_map]
    constructor
    · intro ⟨name, held⟩
      exact ⟨(name, ⟨set, origin⟩), List.mem_filter.2 ⟨stored.2 held, decide_eq_true rfl⟩, rfl⟩
    · intro ⟨entry, member, same⟩
      obtain ⟨member, inSet⟩ := List.mem_filter.1 member
      have guard : entry.2 = ⟨set, origin⟩ := guard_eq_iff.2 ⟨of_decide_eq_true inSet, same⟩
      exact ⟨entry.1, guard ▸ stored.1 member⟩
  have perm := (List.perm_ext_iff_of_nodup locks.nodup distinct).2 members
  rw [LockSet.size, perm.length_eq, List.length_map]

end Sound

end WalletCore.Rpc.LockRegistry
