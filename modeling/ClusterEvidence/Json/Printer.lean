import ClusterEvidence.Json.Basic
import ClusterEvidence.Text.Bytes

/-!
# Printing JSON

Two layouts. The compact one has no white space; the indented one puts every item and member on a
line of its own, two spaces deeper than the bracket, and keeps empty arrays and objects on one
line. Members are printed in the order of their list, which is key order for a canonical value.

Strings escape the quote, the backslash and the characters below U+0020, five of which have a
letter; everything else stands for itself.
-/

namespace ClusterEvidence.Json

/-! ## Literals -/

/-- The lower-case hexadecimal digit of a number below sixteen. -/
def hexDigit (n : Nat) : Char := Nat.digitChar n

/-- A character inside a string literal. -/
def escapeChar (c : Char) : List Char :=
  if c == '"' then ['\\', '"']
  else if c == '\\' then ['\\', '\\']
  else if c == '\n' then ['\\', 'n']
  else if c == '\r' then ['\\', 'r']
  else if c == '\t' then ['\\', 't']
  else if c == '\x08' then ['\\', 'b']
  else if c == '\x0c' then ['\\', 'f']
  else if c.toNat < 0x20 then
    ['\\', 'u', '0', '0', hexDigit (c.toNat / 16), hexDigit (c.toNat % 16)]
  else [c]

/-- A string literal. -/
def quote (s : String) : List Char := '"' :: s.toList.flatMap escapeChar ++ ['"']

/-- The text of a number. -/
def Number.text : Number → List Char
  | .integer n => (toString n).toList
  | .double x => x.text

/-- The literal of a value that holds no other value. -/
def scalarText : Json → List Char
  | bool true => ['t', 'r', 'u', 'e']
  | bool false => ['f', 'a', 'l', 's', 'e']
  | number n => n.text
  | string s => quote s
  | _ => ['n', 'u', 'l', 'l']

/-! ## The compact layout -/

mutual

/-- The compact text of a value. -/
def compact : Json → List Char
  | array items => '[' :: compactItems items ++ [']']
  | object members => '{' :: compactMembers members ++ ['}']
  | value => scalarText value

/-- Items between commas. -/
def compactItems : List Json → List Char
  | [] => []
  | [item] => compact item
  | item :: items => compact item ++ ',' :: compactItems items

/-- Members between commas. -/
def compactMembers : List (String × Json) → List Char
  | [] => []
  | [(key, value)] => quote key ++ ':' :: compact value
  | (key, value) :: members => quote key ++ ':' :: compact value ++ ',' :: compactMembers members

end

/-- The compact text as a string. -/
def compactString (value : Json) : String := String.ofList (compact value)

/-- The compact text as bytes. -/
def compactBytes (value : Json) : Bytes := Text.encode (compact value)

/-! ## The indented layout -/

/-- The start of a line at a depth. -/
def newline (depth : Nat) : List Char := '\n' :: List.replicate (2 * depth) ' '

mutual

/-- The indented text of a value that starts on a line of this depth. -/
def indented (depth : Nat) : Json → List Char
  | array [] => ['[', ']']
  | array (item :: items) =>
      '[' :: indentedItems (depth + 1) (item :: items) ++ newline depth ++ [']']
  | object [] => ['{', '}']
  | object (member :: members) =>
      '{' :: indentedMembers (depth + 1) (member :: members) ++ newline depth ++ ['}']
  | value => scalarText value

/-- Items on lines of their own. -/
def indentedItems (depth : Nat) : List Json → List Char
  | [] => []
  | [item] => newline depth ++ indented depth item
  | item :: items => newline depth ++ indented depth item ++ ',' :: indentedItems depth items

/-- Members on lines of their own. -/
def indentedMembers (depth : Nat) : List (String × Json) → List Char
  | [] => []
  | [(key, value)] => newline depth ++ quote key ++ ':' :: ' ' :: indented depth value
  | (key, value) :: members =>
      newline depth ++ quote key ++ ':' :: ' ' :: indented depth value ++
        ',' :: indentedMembers depth members

end

/-- The indented text as a string. -/
def prettyString (value : Json) : String := String.ofList (indented 0 value)

/-- The indented text as bytes. -/
def prettyBytes (value : Json) : Bytes := Text.encode (indented 0 value)

end ClusterEvidence.Json
