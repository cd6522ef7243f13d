import StreamRoster.Url.Host
import StreamRoster.Url.Path

/-!
# URLs

A URL by its parts, each in the form in which it is written.

## Main definitions

* `Url`: A URL.
* `Url.text`: The text of a URL.
* `Url.hasHost`: Whether a URL names a host.
-/

namespace StreamRoster

/-- A URL. A port is present only if it is not the default one of the scheme,
    and an empty host is one that is not named. -/
structure Url where
  scheme : Scheme
  user : List Char
  password : List Char
  host : Option Host
  port : Option Nat
  path : Url.Path
  query : Option (List Char)
  fragment : Option (List Char)
  deriving DecidableEq

namespace Url

/-- The user name and the password with the sign behind them. -/
def credentials (user password : List Char) : List Char :=
  if user.isEmpty && password.isEmpty then []
  else user ++ (if password.isEmpty then [] else ':' :: password) ++ ['@']

/-- A colon with a port. -/
def portText (port : Option Nat) : List Char :=
  match port with
  | none => []
  | some port => ':' :: (toString port).toList

/-- The host of a URL with all that belongs to it. A path that starts with two
    slashes is kept from being taken for a host. -/
def authority (u : Url) : List Char :=
  match u.host with
  | some host =>
    ['/', '/'] ++ credentials u.user u.password ++ host.text ++ portText u.port
  | none => match u.path with
    | .segments ([] :: _ :: _) => ['/', '.']
    | _ => []

/-- The text of a URL. -/
def text (u : Url) : List Char :=
  u.scheme.name.toList ++ ':' :: u.authority ++ u.path.text ++
    (match u.query with
    | some query => '?' :: query
    | none => []) ++
    (match u.fragment with
    | some fragment => '#' :: fragment
    | none => [])

/-- Whether a URL names a host. -/
def hasHost (u : Url) : Bool :=
  match u.host with
  | some host => host ≠ Host.empty
  | none => false

end Url

end StreamRoster
