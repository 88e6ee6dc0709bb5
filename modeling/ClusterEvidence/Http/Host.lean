import ClusterEvidence.Http.Address
import ClusterEvidence.Http.Domain.Label

/-!
# Hosts

The host of a URL is a domain name or an address. A name may be percent-encoded and in any script;
it is written in ASCII, and one whose last label is a number has to be an address. An address of
sixteen bytes stands in brackets. For a scheme of its own a host is any text, which is only encoded.
-/

namespace ClusterEvidence.Http.Host

/-- The address in brackets that a text is, after the bracket at its front. -/
def bracketed? (text : List Char) : Option String :=
  if text.getLast? = some ']' then
    (Address.long? text.dropLast).map fun groups => "[" ++ Address.longText groups ++ "]"
  else none

/-- The host of a scheme that is known, as it is written. -/
def read? (text : List Char) : Option String :=
  match text with
  | '[' :: rest => bracketed? rest
  | _ => do
      let name ← Domain.toAscii? (← percentText? text)
      if name.isEmpty then none
      else if Address.endsInNumber name then (Address.short? name).map Address.shortText
      else some (String.ofList name)

/-- A character that may not stand in any host. -/
def isForbidden (c : Char) : Bool := "\x00\t\n\r #/:<>?@[\\]^|".toList.contains c

/-- The host of a scheme of its own, as it is written. -/
def readOther? (text : List Char) : Option String :=
  match text with
  | '[' :: rest => bracketed? rest
  | _ =>
      if text.any isForbidden then none
      else some (String.ofList (encodeWhere isBeyondPrint text))

end ClusterEvidence.Http.Host
