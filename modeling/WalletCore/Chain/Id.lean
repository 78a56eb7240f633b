import WalletCore.Permission.Error
import WalletCore.Text.Hexadecimal

/-! # Chain ids

The id of an Ethereum chain is an unsigned word. Its hexadecimal form is a marker and digits
without leading zeros.
-/
namespace WalletCore.Chain

/-- The id of an Ethereum chain. -/
abbrev Id : Type := UInt64

namespace Id

/-- The unsigned word that hexadecimal digits stand for. A plus sign may stand before them. -/
def ofDigits? (digits : List Char) : Option Id :=
  let unsigned := match digits with
    | '+' :: rest => rest
    | _ => digits
  (Text.ofHexadecimal? unsigned).bind fun value =>
    if value < UInt64.size then some (UInt64.ofNat value) else none

/-- Read a chain id in hexadecimal. A zero may only stand alone. -/
def ofHex (text : String) : Except Permission.Error Id :=
  match text.toList with
  | '0' :: 'x' :: digits =>
    if digits.isEmpty ∨ (1 < digits.length ∧ digits.head? = some '0') then
      .error (.invalidChainId (.malformed text))
    else (ofDigits? digits).elim (.error (.invalidChainId (.malformed text))) .ok
  | _ => .error (.invalidChainId (.unmarked text))

/-- The hexadecimal form of a chain id, in lower case. -/
def toHex (id : Id) : String := String.ofList ('0' :: 'x' :: Text.hexadecimal id.toNat)

end Id

end WalletCore.Chain
