import KeyDirectory.Idna.Domain
import KeyDirectory.Url.Ipv4
import KeyDirectory.Url.Ipv6
import KeyDirectory.Url.Percent

/-!
# Hosts

The host of a URL is a domain name, or an IP address: in brackets one of version 6, and otherwise
whatever ends in a number must be one of version 4. Where the scheme has no rules of its own, a host
that is not in brackets is any name.
-/

namespace KeyDirectory.Url

open KeyDirectory

/-- Why a text is not a URL. -/
inductive Defect where
  | emptyHost
  | domainName
  | domainCharacter
  | port
  | ipv4Address
  | ipv6Address
  | noScheme
deriving DecidableEq, Repr

def Defect.message : Defect → String
  | .emptyHost => "empty host"
  | .domainName => "invalid international domain name"
  | .domainCharacter => "invalid domain character"
  | .port => "invalid port number"
  | .ipv4Address => "invalid IPv4 address"
  | .ipv6Address => "invalid IPv6 address"
  | .noScheme => "relative URL without a base"

inductive Host where
  | domain (name : String)
  | ipv4 (address : Nat)
  | ipv6 (pieces : List Nat)
deriving DecidableEq, Repr

def Host.render : Host → List Char
  | .domain name => name.toList
  | .ipv4 address => Ipv4.render address
  | .ipv6 pieces => ['['] ++ Ipv6.render pieces ++ [']']

/-- The host that a domain name in its ASCII form stands for. -/
def Host.ofAscii (name : List Char) : Except Defect Host :=
  if name.isEmpty then .error .emptyHost
  else if Ipv4.endsInNumber name then
    match Ipv4.address? name with
    | some address => .ok (.ipv4 address)
    | none => .error .ipv4Address
  else .ok (.domain (String.ofList name))

/-- Reads a host that is not in brackets and stands for a machine. -/
def Host.ofName (text : List Char) : Except Defect Host :=
  match Idna.toAscii? (Text.Utf8.decodeLossy (Percent.decode text)) with
  | some name => Host.ofAscii name
  | none => .error .domainName

/-- A character that no host holds. -/
def isForbiddenInHost (c : Char) : Bool :=
  "\x00\t\n\r #/:<>?@[\\]^|".toList.contains c

/-- Reads a host that is any name, which may be empty. -/
def Host.ofAnyName (text : List Char) : Except Defect Host :=
  if text.any isForbiddenInHost then .error .domainCharacter
  else .ok (.domain (String.ofList (Percent.encode Percent.inPlain text)))

def Host.ofText (isSpecial : Bool) (text : List Char) : Except Defect Host :=
  match text with
  | '[' :: rest =>
    if rest.getLast? = some ']' then
      match Ipv6.address? rest.dropLast with
      | some pieces => .ok (.ipv6 pieces)
      | none => .error .ipv6Address
    else .error .ipv6Address
  | _ => if isSpecial then Host.ofName text else Host.ofAnyName text

end KeyDirectory.Url
