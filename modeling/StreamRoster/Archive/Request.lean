import StreamRoster.Http.Authorization
import StreamRoster.Url.Parse

/-!
# Archive Requests

The request for the streams that the archive of an instance knows. Its URL is
the base URL without slashes at its end, followed by the path of the list.

A user in the base URL does not go over the wire as part of the URL but as
authorization. A key comes behind it as a second one.

## Main definitions

* `Archive`: Where an archive is asked for its streams.
* `Archive.Request`: A request to an archive.
* `Archive.RequestFault`: Why no request can be made.
* `Archive.request`: The request for the streams.
-/

namespace StreamRoster

/-- Where an archive is asked for its streams. -/
structure Archive where
  base : String
  inst : String
  key : Option String
  deriving DecidableEq, Repr

namespace Archive

/-- A request to an archive, with its authorizations in order. -/
structure Request where
  url : Url
  authorizations : List (List Char)
  deriving DecidableEq

/-- Why no request can be made. -/
inductive RequestFault where
  | unreadable (fault : Url.Fault)
  | noHost (url : Url)
  | header
  deriving DecidableEq

/-- The wording of a fault. -/
def RequestFault.message : RequestFault → String
  | .noHost url => "builder error for url (" ++ String.ofList url.text ++ ")"
  | _ => "builder error"

/-- What lies behind a fault. -/
def RequestFault.causes : RequestFault → List String
  | .unreadable fault => [fault.message]
  | .noHost _ => ["URL scheme is not allowed"]
  | .header => [Authorization.unwritable]

/-- The method of the request. -/
def method : String := "GET"

/-- The text without the slashes at its end. -/
def trimSlashes (s : List Char) : List Char := (s.reverse.dropWhile (· = '/')).reverse

/-- The text of the URL that is asked. -/
def address (a : Archive) : List Char :=
  trimSlashes a.base.toList ++ "/api/archive/".toList ++ a.inst.toList ++ "/streams".toList

/-- The text of a part of a URL with its escapes resolved. -/
def plainPart? (s : List Char) : Option (List Char) :=
  Text.ofUtf8? (Percent.decode (Text.utf8 s))

/-- Take the user out of a URL. A user whose name is no text stays there. -/
def takeUser (url : Url) : Url × List (List Char) :=
  match plainPart? url.user with
  | none => (url, [])
  | some user =>
    let password := if url.password.isEmpty then none else plainPart? url.password
    if user.isEmpty && password.isNone then (url, [])
    else ({ url with user := [], password := [] }, [Authorization.basic user (password.getD [])])

/-- The request for the streams. -/
def request (a : Archive) : Except RequestFault Request :=
  match Url.parse a.address with
  | .error fault => .error (.unreadable fault)
  | .ok url =>
    if !url.hasHost then .error (.noHost url)
    else
      let (url, users) := takeUser url
      match a.key with
      | none => .ok ⟨url, users⟩
      | some key => match Authorization.bearer? key with
        | some value => .ok ⟨url, users ++ [value]⟩
        | none => .error .header

end Archive

end StreamRoster
