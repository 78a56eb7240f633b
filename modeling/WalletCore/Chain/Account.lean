import WalletCore.Chain.Scope

/-! # Accounts

An account is an address within a scope that names one chain: the text after the last colon is the
address, and the text before it is the scope.
-/
namespace WalletCore.Chain

/-- An account of one scope. -/
structure Account where
  /-- The scope. -/
  scope : Scope
  /-- The address within it. -/
  address : String
deriving DecidableEq

namespace Account

/-- The characters of an address: letters, digits, hyphens, points and percent signs. -/
def isAddressChar (char : Char) : Bool :=
  char.isAlphanum || char = '-' || char = '.' || char = '%'

/-- Whether a text is an address: one to a hundred and twenty-eight of its characters. -/
def isAddress (text : List Char) : Bool :=
  1 ≤ text.length && text.length ≤ 128 && text.all isAddressChar

/-- The texts before and after the last colon. -/
def splitLast? (text : List Char) : Option (List Char × List Char) :=
  match text.reverse.dropWhile (· ≠ ':') with
  | [] => none
  | _ :: front => some (front.reverse, (text.reverse.takeWhile (· ≠ ':')).reverse)

/-- Read an account. A text that is not one is named whole, except that a malformed scope before a
good address is named alone. -/
def parse (text : String) : Except Permission.Error Account :=
  match splitLast? text.toList with
  | none => .error (.invalidScope (.malformed text))
  | some (key, address) =>
    if ':' ∈ key ∧ isAddress address then
      (Scope.parse (String.ofList key)).map (⟨·, String.ofList address⟩)
    else .error (.invalidScope (.malformed text))

/-- Read an account, if the text is one. -/
def parse? (text : String) : Option Account := (parse text).toOption

/-- The written form of an account. -/
def toText (account : Account) : String := account.scope.toText ++ ":" ++ account.address

end Account

end WalletCore.Chain
