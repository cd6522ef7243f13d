import StreamRoster.Domain.Basic
import StreamRoster.Http.Percent
import StreamRoster.Net.Ipv6
import StreamRoster.Url.Scheme

/-!
# URL Hosts

The host of a URL: a name or an address. Under a special scheme a name is a
domain name, and one that ends in a number is an address; under any other
scheme it is a text in which only some characters are refused.

## Main definitions

* `Url.Fault`: Why a text is no URL.
* `Host`: A name or an address.
* `Host.read`: Reads the host of a special URL.
* `Host.readPlain`: Reads the host of any other URL.
* `Host.text`: The text of a host.
-/

namespace StreamRoster

/-- Why a text is no URL. -/
inductive Url.Fault where
  | relative
  | emptyHost
  | invalidPort
  | invalidIpv4
  | invalidIpv6
  | invalidDomain
  | invalidHostCharacter
  deriving DecidableEq, Repr

/-- The wording of a fault. -/
def Url.Fault.message : Url.Fault → String
  | .relative => "relative URL without a base"
  | .emptyHost => "empty host"
  | .invalidPort => "invalid port number"
  | .invalidIpv4 => "invalid IPv4 address"
  | .invalidIpv6 => "invalid IPv6 address"
  | .invalidDomain => "invalid international domain name"
  | .invalidHostCharacter => "invalid domain character"

/-- A name or an address. -/
inductive Host where
  | name (text : List Char)
  | ipv4 (address : Ipv4)
  | ipv6 (address : Ipv6)
  deriving DecidableEq

namespace Host

/-- The text of a host. -/
def text : Host → List Char
  | .name text => text
  | .ipv4 a => a.text
  | .ipv6 a => '[' :: a.text ++ [']']

/-- The host without a name. -/
def empty : Host := .name []

/-- Read an address in brackets, the first of which has been taken. -/
def readBrackets (s : List Char) : Except Url.Fault Host :=
  if s.getLast? = some ']' then
    match Ipv6.read? s.dropLast with
    | some a => .ok (.ipv6 a)
    | none => .error .invalidIpv6
  else .error .invalidIpv6

/-- The host of a domain name. -/
def ofDomain (domain : List Char) : Except Url.Fault Host :=
  if domain.isEmpty then .error .emptyHost
  else if Ipv4.endsInNumber domain then
    match Ipv4.readLenient? domain with
    | some a => .ok (.ipv4 a)
    | none => .error .invalidIpv4
  else .ok (.name domain)

/-- The domain name written in a URL. -/
def domain? (s : List Char) : Option (List Char) := do
  Domain.toAscii? (← Text.ofUtf8? (Percent.decode (Text.utf8 s)))

/-- Read the host of a special URL. -/
def read (s : List Char) : Except Url.Fault Host :=
  match s with
  | '[' :: s => readBrackets s
  | s => match domain? s with
    | some domain => ofDomain domain
    | none => .error .invalidDomain

/-- Whether the host of a URL that is not special may not contain a
    character. -/
def isRefused (c : Char) : Bool := "\x00\t\n\r #/:<>?@[\\]^|".toList.contains c

/-- Read the host of a URL that is not special. -/
def readPlain (s : List Char) : Except Url.Fault Host :=
  match s with
  | '[' :: s => readBrackets s
  | s =>
    if s.any isRefused then .error .invalidHostCharacter
    else .ok (.name (Percent.encode Percent.isControl s))

end Host

end StreamRoster
