import WalletCore.Permission.Caveat

/-! # The registry of caveats and permissions

The registry maps the type of a caveat to what is done with such caveats, and the name of a
permission to how it is built. Snaps contribute further types of caveats, but none under a name
that is taken.
-/
namespace WalletCore.Permission

/-- What is done with the caveats of one type. -/
structure CaveatSpecification where
  /-- The name of the type. -/
  type : String
  /-- Checks a caveat before it is granted. -/
  validator : Option (Caveat → Except Error Unit) := none
  /-- Merges the value that was granted with another one. -/
  merger : Option (Json → Json → Except Error Json) := none

namespace CaveatSpecification

/-- Check a caveat. Without a validator every caveat is accepted. -/
def validate (specification : CaveatSpecification) (caveat : Caveat) : Except Error Unit :=
  match specification.validator with
  | some validator => validator caveat
  | none => .ok ()

/-- Merge two values, if the type has a merger. -/
def merge (specification : CaveatSpecification) (left right : Json) :
    Option (Except Error Json) :=
  specification.merger.map fun merger => merger left right

/-- The text that shows a specification. -/
def describe (specification : CaveatSpecification) : String :=
  "CaveatSpecification \x7b caveat_type: " ++ Text.quoted specification.type ++ ", validator: " ++
    toString specification.validator.isSome ++ ", merger: " ++
    toString specification.merger.isSome ++ " \x7d"

/-- The specification of the caveats that hold an authorization. -/
def authorizedScopes (lookups : WalletLookups) : CaveatSpecification where
  type := scopesCaveat
  validator := some (checkScopesCaveat lookups)
  merger := some mergeScopesValues

end CaveatSpecification

/-- Add specifications whose types are not yet there. -/
def addSpecifications (table : Table CaveatSpecification) :
    List CaveatSpecification → Except Error (Table CaveatSpecification)
  | [] => .ok table
  | specification :: others =>
    if table.contains specification.type then
      .error (.duplicateCaveatSpecification specification.type)
    else addSpecifications (table.insert specification.type specification) others

/-- The caveat specifications of a wallet: the one for authorizations and those of the snaps. -/
def caveatSpecifications (lookups : WalletLookups) (snaps : List CaveatSpecification) :
    Except Error (Table CaveatSpecification) :=
  addSpecifications
    (Table.empty.insert scopesCaveat (CaveatSpecification.authorizedScopes lookups)) snaps

/-- How a permission is built. -/
structure GrantSpecification where
  /-- The name of the permission. -/
  target : String
  /-- The types of caveats that it accepts. -/
  allowedCaveats : List String
  /-- Builds the permission for an invoker from its caveats. -/
  build : String → List Caveat → Except Error Grant

namespace GrantSpecification

/-- The kind of every permission: it grants a capability and not access to one method. -/
def kind : String := "Endowment"

/-- The text that shows a specification. -/
def describe (specification : GrantSpecification) : String :=
  "PermissionSpecification \x7b permission_type: " ++ kind ++ ", target_name: " ++
    Text.quoted specification.target ++ ", allowed_caveats: [" ++
    ", ".intercalate (specification.allowedCaveats.map Text.quoted) ++ "] \x7d"

/-- The specification of the permission that carries an authorization. -/
def authorization : GrantSpecification where
  target := authorizationName
  allowedCaveats := [scopesCaveat]
  build := buildAuthorizationGrant

end GrantSpecification

/-- The permissions that can be granted: the one that carries an authorization. -/
def grantSpecifications : Table GrantSpecification :=
  Table.empty.insert authorizationName GrantSpecification.authorization

end WalletCore.Permission
