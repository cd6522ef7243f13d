import StreamRoster.Http.Base64
import StreamRoster.Text.Utf8

/-!
# Authorization

The header by which a request shows that it is allowed: a key, or a user with
a password.

## Main definitions

* `Authorization.bearer?`: The header value of a key.
* `Authorization.basic`: The header value of a user.
-/

namespace StreamRoster

namespace Authorization

/-- Whether a byte may stand in a header value: no control byte except for the
    tab. -/
def isValueByte (b : UInt8) : Bool := b = 9 || (0x20 ≤ b && b ≠ 0x7f)

/-- The wording of the error for a text that is no header value. -/
def unwritable : String := "failed to parse header value"

/-- The header value of a key, if it can be written. -/
def bearer? (key : String) : Option (List Char) :=
  let value := "Bearer ".toList ++ key.toList
  if (Text.utf8 value).all isValueByte then some value else none

/-- The header value of a user with a password. -/
def basic (user password : List Char) : List Char :=
  "Basic ".toList ++ Base64.encode (Text.utf8 (user ++ ':' :: password))

end Authorization

end StreamRoster
