import StreamRoster.Url.Parse

/-!
# Endpoint URLs

The URLs that a configuration may name: not too long, readable, with one of
two schemes and with a host.

## Main definitions

* `Url.Purpose`: What an endpoint is for.
* `Url.Rejection`: Why a text is no URL of an endpoint.
* `Url.validate`: Reads the URL of an endpoint.
-/

namespace StreamRoster

namespace Url

/-- What an endpoint is for: a feed of events, or requests. -/
inductive Purpose where
  | feed
  | requests
  deriving DecidableEq, Repr

/-- The schemes of an endpoint: an open one and a secured one. -/
def Purpose.schemes : Purpose → Scheme × Scheme
  | .feed => (⟨"ws"⟩, ⟨"wss"⟩)
  | .requests => (⟨"http"⟩, ⟨"https"⟩)

/-- Whether an endpoint may have a scheme. -/
def Purpose.allows (purpose : Purpose) (scheme : Scheme) : Bool :=
  scheme = purpose.schemes.1 || scheme = purpose.schemes.2

/-- Why a text is no URL of an endpoint. -/
inductive Rejection where
  | tooLong
  | unreadable (fault : Fault)
  | scheme (found : Scheme) (purpose : Purpose)
  | noHost
  deriving DecidableEq, Repr

/-- The longest URL in bytes. -/
def maxLength : Nat := 2048

/-- The wording of a rejection. -/
def Rejection.message : Rejection → String
  | .tooLong => s!"URL exceeds maximum length of {maxLength} characters"
  | .unreadable _ => "Invalid URL format"
  | .scheme found purpose =>
    let (first, second) := purpose.schemes
    "Invalid URL scheme: " ++ found.name ++ " (only " ++ first.name ++ " and " ++ second.name ++
      " allowed)"
  | .noHost => "URL must have a host"

/-- What lies behind a rejection. -/
def Rejection.causes : Rejection → List String
  | .unreadable fault => [fault.message]
  | _ => []

/-- Read the URL of an endpoint. -/
def validate (purpose : Purpose) (s : List Char) : Except Rejection Url :=
  if maxLength < (Text.utf8 s).length then .error .tooLong
  else match parse s with
    | .error fault => .error (.unreadable fault)
    | .ok u =>
      if !purpose.allows u.scheme then .error (.scheme u.scheme purpose)
      else if !u.hasHost then .error .noHost
      else .ok u

end Url

end StreamRoster
