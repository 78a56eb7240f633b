import WalletCore.Chain.Id

/-! # Scopes

A scope names a family of chains and, after a colon, one chain of it. Ethereum chains are named by
their id in decimal; the scope of the wallet itself may be narrowed to Ethereum accounts that
belong to no chain in particular.
-/
namespace WalletCore.Chain

/-- A scope that an authorization may cover. -/
inductive Scope where
  /-- One Ethereum chain. -/
  | eip155 (chain : Id)
  /-- Ethereum accounts on no particular chain. -/
  | walletEip155
  /-- The wallet itself. -/
  | wallet
  /-- A chain of another family, or a whole family. -/
  | other (family : String) (reference : Option String)
deriving DecidableEq

namespace Scope

/-- The family of the Ethereum chains. -/
def eip155Family : String := "eip155"

/-- The family of the wallet itself. -/
def walletFamily : String := "wallet"

/-- The characters of a family: small letters, digits and hyphens. -/
def isFamilyChar (char : Char) : Bool :=
  char.isLower || char.isDigit || char = '-'

/-- The characters of a reference: letters, digits, hyphens and underscores. -/
def isReferenceChar (char : Char) : Bool :=
  char.isAlphanum || char = '-' || char = '_'

/-- Whether a text is a family: three to eight of its characters. -/
def isFamily (text : List Char) : Bool :=
  3 ≤ text.length && text.length ≤ 8 && text.all isFamilyChar

/-- Whether a text is a reference: one to thirty-two of its characters. -/
def isReference (text : List Char) : Bool :=
  1 ≤ text.length && text.length ≤ 32 && text.all isReferenceChar

/-- The text before the first colon, and the text after it if there is one. -/
def splitFirst (text : List Char) : List Char × Option (List Char) :=
  match text.dropWhile (· ≠ ':') with
  | [] => (text, none)
  | _ :: reference => (text.takeWhile (· ≠ ':'), some reference)

/-- The id of an Ethereum chain in decimal, without leading zeros. -/
def chainOfDecimal? (text : List Char) : Option Id :=
  if text.isEmpty ∨ ¬ text.all Char.isDigit ∨ (1 < text.length ∧ text.head? = some '0') then none
  else
    let value := Nat.ofDigitChars 10 text 0
    if value < UInt64.size then some (UInt64.ofNat value) else none

/-- Read the two parts of a scope. -/
def ofParts? (family : List Char) (reference : Option (List Char)) : Option Scope :=
  if ¬ isFamily family then none
  else
    match reference with
    | none =>
      if family = walletFamily.toList then some .wallet
      else some (.other (String.ofList family) none)
    | some reference =>
      if ¬ isReference reference then none
      else if family = eip155Family.toList then (chainOfDecimal? reference).map .eip155
      else if family = walletFamily.toList ∧ reference = eip155Family.toList then
        some .walletEip155
      else some (.other (String.ofList family) (some (String.ofList reference)))

/-- Read a scope, if the text is one. -/
def parse? (text : String) : Option Scope :=
  let (family, reference) := splitFirst text.toList
  ofParts? family reference

/-- Read a scope. -/
def parse (text : String) : Except Permission.Error Scope :=
  (parse? text).elim (.error (.invalidScope (.malformed text))) .ok

/-- Whether the accounts of a scope are Ethereum addresses. -/
def isEthereum : Scope → Bool
  | .eip155 _ | .walletEip155 => true
  | .wallet | .other .. => false

/-- The written form of a scope. -/
def toText : Scope → String
  | .eip155 chain => eip155Family ++ ":" ++ toString chain.toNat
  | .walletEip155 => walletFamily ++ ":" ++ eip155Family
  | .wallet => walletFamily
  | .other family none => family
  | .other family (some reference) => family ++ ":" ++ reference

/-- Whether a key reads as a scope whose accounts are Ethereum addresses. -/
def isEthereumKey (key : String) : Bool := (parse? key).any isEthereum

/-- The chain of a key that reads as the scope of one Ethereum chain. -/
def chainOfKey? (key : String) : Option Id :=
  match parse? key with
  | some (.eip155 chain) => some chain
  | _ => none

end Scope

end WalletCore.Chain
