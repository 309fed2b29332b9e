import OlapClient.Url.Address
import OlapClient.Url.Domain.Label

/-!
# Hosts in URLs

A host is an IPv6 address between brackets, an IPv4 address or a domain name.  A domain name is
written in ASCII: its characters are mapped and composed, and each label with characters beyond
ASCII is written in its ASCII form.  In a URL of a scheme that is not special a host is kept as
it is.
-/

namespace OlapClient.Url

open OlapClient.Text

/-- The characters that no host has. -/
def forbiddenInHost (c : Char) : Bool :=
  "\x00\t\n\r #/:<>?@[\\]^|".toList.contains c

/-- The labels of a domain name, with all their characters. -/
def readDomain (cs : List Char) : Option (List (List Char)) := do
  let mapped ← Domain.mapCharacters cs
  let labels ← (splitBy '.' (Domain.compose mapped)).mapM Domain.readLabel
  let valid := labels.all Domain.isValid
  let unambiguous :=
    !labels.any (·.any Domain.turnsRight) || labels.all Domain.isUnambiguous
  if valid && unambiguous then some labels else none

/-- A domain name in ASCII. -/
def domainToAscii (cs : List Char) : Option (List Char) :=
  (readDomain cs).map fun labels => joinBy '.' (labels.map Domain.writeLabel)

/-- A text between brackets. -/
def betweenBrackets (cs : List Char) : Option (List Char) :=
  match cs with
  | '[' :: rest => if rest.getLast? = some ']' then some rest.dropLast else none
  | _ => none

/-- Reads a host that is written between brackets. -/
def readBracketed (cs : List Char) : Except UrlFault (List Char) :=
  match betweenBrackets cs with
  | some inner => (readIpv6 inner).map fun groups => '[' :: ipv6Text groups ++ [']']
  | none => .error .invalidIpv6

/-- Reads the host of a URL of a special scheme, and writes it in its one form. -/
def readHost (cs : List Char) : Except UrlFault (List Char) :=
  if cs.head? = some '[' then readBracketed cs
  else
    match (decode? (percentDecode (encode cs))).bind domainToAscii with
    | none => .error .invalidDomainName
    | some [] => .error .emptyHost
    | some domain => if endsInNumber domain then (readIpv4 domain).map ipv4Text else .ok domain

/-- Reads the host of a URL of a scheme that is not special. -/
def readOpaqueHost (cs : List Char) : Except UrlFault (List Char) :=
  if cs.head? = some '[' then readBracketed cs
  else if cs.any forbiddenInHost then .error .invalidDomainCharacter
  else .ok (percentEncode isControl cs)

end OlapClient.Url
