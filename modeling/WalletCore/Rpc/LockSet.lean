/-! # Locked origins

An origin is locked while one of its requests for accounts is under way. A second lock of the same
origin is refused at once and never waited for.
-/
namespace WalletCore.Rpc

/-- A set of locked origins. -/
structure LockSet where
  /-- The locked origins, the latest first. -/
  origins : List String
  /-- No origin is locked twice. -/
  nodup : origins.Nodup
deriving DecidableEq

namespace LockSet

/-- No origin is locked. -/
def empty : LockSet := ⟨[], .nil⟩

/-- Whether an origin is locked. -/
def isLocked (locks : LockSet) (origin : String) : Bool := locks.origins.contains origin

/-- Number of locked origins. -/
def size (locks : LockSet) : Nat := locks.origins.length

/-- Lock an origin, unless it is locked. -/
def acquire? (locks : LockSet) (origin : String) : Option LockSet :=
  if free : origin ∈ locks.origins then none
  else some ⟨origin :: locks.origins, List.nodup_cons.2 ⟨free, locks.nodup⟩⟩

/-- Unlock an origin. -/
def release (locks : LockSet) (origin : String) : LockSet :=
  ⟨locks.origins.erase origin, locks.nodup.erase origin⟩

end LockSet

end WalletCore.Rpc
