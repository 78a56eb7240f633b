import WalletCore.Text.Hexadecimal
import WalletCore.Text.Shapeless

/-! # Quoted text in messages

A message shows a string between double quotes. Quotes, backslashes and the common controls have
a short escape, characters without a shape of their own are shown by number, and every other
character stands for itself.
-/
namespace WalletCore.Text

/-- One character of quoted text. -/
def quoteChar (char : Char) : List Char :=
  if char = '"' then ['\\', '"']
  else if char = '\\' then ['\\', '\\']
  else if char = '\n' then ['\\', 'n']
  else if char = '\r' then ['\\', 'r']
  else if char = '\t' then ['\\', 't']
  else if char = '\x00' then ['\\', '0']
  else if isShapeless char then '\\' :: 'u' :: '\x7b' :: hexadecimal char.toNat ++ ['\x7d']
  else [char]

/-- A string between double quotes. -/
def quoted (text : String) : String :=
  String.ofList ('"' :: text.toList.flatMap quoteChar ++ ['"'])

end WalletCore.Text
