import WalletCore.Members
import WalletCore.Rpc.LockSet

/-! # Shared lock sets

Lock sets are shared through handles. Locking an origin through a handle yields a guard, and the
origin stays locked until its guard is dropped, even when every handle of the set is gone. Handles
and guards are kept under names: what is stored under a name that is taken replaces what was there,
and a guard that is replaced is dropped after the new one was obtained.
-/
namespace WalletCore.Rpc

/-- A guard of a locked origin. -/
structure Guard where
  /-- The number of the set in which the origin is locked. -/
  set : Nat
  /-- The locked origin. -/
  origin : String
deriving DecidableEq

/-- Lock sets with the named handles and guards on them. -/
structure LockRegistry where
  /-- All sets, in order of creation. -/
  sets : List LockSet
  /-- The set of each handle. -/
  handles : Members Nat
  /-- The guards. -/
  guards : Members Guard
deriving DecidableEq

namespace LockRegistry

/-- One set with one handle on it. -/
def single (handle : String) : LockRegistry := ⟨[.empty], Members.empty.put handle 0, .empty⟩

/-- Replace one set by the result of a function on it. -/
def changeSet (registry : LockRegistry) (set : Nat) (change : LockSet → LockSet) : LockRegistry :=
  { registry with sets := registry.sets.modify set change }

/-- Unlock the origin of a guard that is no longer stored. -/
def drop (registry : LockRegistry) (guard : Guard) : LockRegistry :=
  registry.changeSet guard.set (·.release guard.origin)

/-- The set of a handle, with its number. -/
def find? (registry : LockRegistry) (handle : String) : Option (Nat × LockSet) := do
  let set ← registry.handles.get? handle
  .some (set, ← registry.sets[set]?)

/-- Lock an origin through a handle and store the guard; nothing if the origin is locked or there
is no such handle. -/
def acquire? (registry : LockRegistry) (handle origin guard : String) : Option LockRegistry := do
  let (set, locks) ← registry.find? handle
  let locks ← locks.acquire? origin
  let locked := registry.changeSet set fun _ => locks
  let stored := { locked with guards := locked.guards.put guard ⟨set, origin⟩ }
  .some ((registry.guards.get? guard).elim stored stored.drop)

/-- Drop a guard, if there is one of that name. -/
def release? (registry : LockRegistry) (guard : String) : Option LockRegistry := do
  let found ← registry.guards.get? guard
  .some (drop { registry with guards := registry.guards.remove guard } found)

/-- Store a further handle to the set of a handle. -/
def share? (registry : LockRegistry) (handle name : String) : Option LockRegistry := do
  let set ← registry.handles.get? handle
  .some { registry with handles := registry.handles.put name set }

/-- Store a handle to a new set. -/
def create (registry : LockRegistry) (name : String) : LockRegistry :=
  { registry with
    sets := registry.sets ++ [.empty]
    handles := registry.handles.put name registry.sets.length }

/-- Drop a handle, if there is one of that name. Guards keep their origins locked. -/
def dropHandle? (registry : LockRegistry) (handle : String) : Option LockRegistry :=
  (registry.handles.get? handle).map fun _ =>
    { registry with handles := registry.handles.remove handle }

/-- The origins among some that are locked in the first set. -/
def lockedInFirst (registry : LockRegistry) (origins : List String) : List String :=
  origins.filter fun origin => registry.sets.head?.any (·.isLocked origin)

end LockRegistry

end WalletCore.Rpc
