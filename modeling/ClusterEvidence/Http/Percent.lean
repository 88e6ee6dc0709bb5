import ClusterEvidence.Text.Bytes
import ClusterEvidence.Text.Digits

/-!
# Percent-encoding

What may not stand for itself in a part of a URL is written as the bytes of its UTF-8 encoding, each
after a percent sign in two hexadecimal digits. Which characters those are depends on the part; what
is encoded already is left as it is. Values of forms have an encoding of their own, in which a plus
sign stands for a space.
-/

namespace ClusterEvidence.Http

/-! ## Writing -/

/-- An upper-case hexadecimal digit. -/
def upperHex (n : Nat) : Char := if n < 10 then Char.ofNat (48 + n) else Char.ofNat (55 + n)

/-- The percent-encoding of a byte. -/
def percent (byte : UInt8) : List Char :=
  ['%', upperHex (byte.toNat / 16), upperHex (byte.toNat % 16)]

/-- The percent-encoding of the characters of a text that may not stand for themselves. -/
def encodeWhere (reserved : Char → Bool) (text : List Char) : List Char :=
  text.flatMap fun c => if reserved c then (String.utf8EncodeChar c).flatMap percent else [c]

/-- A control character or a character beyond ASCII. These are encoded everywhere. -/
def isBeyondPrint (c : Char) : Bool := c < ' ' || '~' < c

/-- The characters that are encoded in a fragment. -/
def reservedInFragment (c : Char) : Bool :=
  isBeyondPrint c || " \"<>".toList.contains c || c == '\x60'

/-- The characters that are encoded in a path. -/
def reservedInPath (c : Char) : Bool :=
  reservedInFragment c || "#?\x7b\x7d".toList.contains c

/-- The characters that are encoded in a name or a password. -/
def reservedInUser (c : Char) : Bool :=
  reservedInPath c || "/:;=@[\\]^|".toList.contains c

/-- The characters that are encoded in a query; for the schemes that servers answer to, quotation
marks of both kinds. -/
def reservedInQuery (special : Bool) (c : Char) : Bool :=
  isBeyondPrint c || " \"#<>".toList.contains c || (special && c == '\'')

/-- The encoding of a value in a form. -/
def encodeForm (text : String) : List Char :=
  text.toList.flatMap fun c =>
    if c == ' ' then ['+']
    else if c.isAlphanum || "*-._".toList.contains c then [c]
    else (String.utf8EncodeChar c).flatMap percent

/-! ## Reading -/

/-- The value of a hexadecimal digit. -/
def hexValue? (c : Char) : Option Nat :=
  if c.isDigit then some (c.toNat - 48)
  else if 'a' ≤ c && c ≤ 'f' then some (c.toNat - 87)
  else if 'A' ≤ c && c ≤ 'F' then some (c.toNat - 55)
  else none

/-- The bytes of a text, in which a percent sign before two digits stands for a byte. -/
def percentDecoded : List Char → Bytes
  | [] => []
  | c :: text =>
      match c, text with
      | '%', high :: low :: rest =>
          match hexValue? high, hexValue? low with
          | some high, some low => UInt8.ofNat (high * 16 + low) :: percentDecoded rest
          | _, _ => 37 :: percentDecoded (high :: low :: rest)
      | c, text => String.utf8EncodeChar c ++ percentDecoded text

/-- The text that percent-encoded bytes write, if it is UTF-8. -/
def percentText? (text : List Char) : Option (List Char) := Text.decode? (percentDecoded text)

end ClusterEvidence.Http
