/-
Module: ReplicaBridge.Text.Hex
Purpose: Byte strings as hexadecimal text, two lower-case digits for each byte.
Main exports: hex, unhex
-/
import ReplicaBridge.Bytes

namespace ReplicaBridge.Text

/-- The sixteen digits. -/
def hexAlphabet : List Char :=
  ['0', '1', '2', '3', '4', '5', '6', '7', '8', '9', 'a', 'b', 'c', 'd', 'e', 'f']

/-- The digit of a number below sixteen. -/
def hexDigit (value : Nat) : Char :=
  hexAlphabet.getD value '0'

/-- The value of a digit; what is no lower-case digit counts as the next higher number. -/
def hexValue (digit : Char) : Nat :=
  hexAlphabet.idxOf digit

/-- The two digits of every byte. -/
def hexChars (bytes : Bytes) : List Char :=
  bytes.flatMap fun byte => [hexDigit (byte.toNat / 16), hexDigit (byte.toNat % 16)]

/-- The text of a byte string. -/
def hex (bytes : Bytes) : String :=
  String.ofList (hexChars bytes)

/-- The bytes of pairs of digits; an odd digit at the end is left out. -/
def unhexChars : List Char → Bytes
  | high :: low :: rest => UInt8.ofNat (hexValue high * 16 + hexValue low) :: unhexChars rest
  | _ => []

/-- The byte string of a text. -/
def unhex (text : String) : Bytes :=
  unhexChars text.toList

end ReplicaBridge.Text
