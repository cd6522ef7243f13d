import StreamRoster.Text.Utf8

/-!
# Request Targets

The target of an HTTP request: a path with a query, an authority alone, or
a whole address with its scheme. A fragment is accepted and dropped.

Targets are checked byte by byte. In a path and a query all bytes beyond
ASCII pass, in an authority none does.

## Main definitions

* `Target`: A request target.
* `Target.Fault`: Why a text is no target.
* `Target.parse`: Reads a target.
* `Target.text`: The text of a target.
-/

namespace StreamRoster

/-- A request target. -/
structure Target where
  scheme : Option (List Char)
  authority : List Char
  path : List Char
  query : Option (List Char)
  deriving DecidableEq, Repr

namespace Target

/-- Why a text is no target. -/
inductive Fault where
  | empty
  | invalidFormat
  | invalidCharacter
  | invalidAuthority
  | schemeTooLong
  | tooLong
  deriving DecidableEq, Repr

/-- The wording of a fault. -/
def Fault.message : Fault → String
  | .empty => "empty string"
  | .invalidFormat => "invalid format"
  | .invalidCharacter => "invalid uri character"
  | .invalidAuthority => "invalid authority"
  | .schemeTooLong => "scheme too long"
  | .tooLong => "uri too long"

/-- The longest target in bytes. -/
def maxLength : Nat := 65534

/-- The longest scheme. -/
def maxScheme : Nat := 64

/-- Whether a character may stand in a path. -/
def isPathChar (c : Char) : Bool :=
  0x7f ≤ c.toNat || (0x20 < c.toNat && c ≠ '#' && c ≠ '<' && c ≠ '>' && c ≠ '?' && c ≠ '\x60')

/-- Whether a character may stand in a query. -/
def isQueryChar (c : Char) : Bool :=
  0x7f ≤ c.toNat || (0x20 < c.toNat && c ≠ '"' && c ≠ '#' && c ≠ '<' && c ≠ '>')

/-- Split a text behind the characters before the first one that satisfies a
    test. -/
def splitAt (p : Char → Bool) (s : List Char) : List Char × List Char :=
  (s.takeWhile fun c => !p c, s.dropWhile fun c => !p c)

/-- Read a path and a query up to the end or to a fragment. -/
def parsePath (scheme : Option (List Char)) (authority s : List Char) : Except Fault Target :=
  let (path, rest) := splitAt (fun c => c = '?' || c = '#') s
  if !path.all isPathChar then .error .invalidCharacter
  else
    let path := if path.isEmpty then ['/'] else path
    match rest with
    | '?' :: rest =>
      let (query, _) := splitAt (· = '#') rest
      if query.all isQueryChar then .ok { scheme, authority, path, query := some query }
      else .error .invalidCharacter
    | _ => .ok { scheme, authority, path, query := none }

/-- Whether a character may stand in a scheme. -/
def isSchemeChar (c : Char) : Bool := c.isAlphanum || c = '+' || c = '-' || c = '.'

/-- The scheme of a whole address, and the text behind the two slashes. -/
def scheme? (s : List Char) : Except Fault (Option (List Char × List Char)) :=
  let (scheme, rest) := splitAt (fun c => !isSchemeChar c) s
  match rest with
  | ':' :: '/' :: '/' :: rest =>
    if maxScheme < scheme.length then .error .schemeTooLong
    else if s.length ≤ 3 then .ok none
    else .ok (some (scheme, rest))
  | _ => .ok none

/-- Whether a character has a place in an authority, apart from the percent
    sign. -/
def isAuthorityChar (c : Char) : Bool :=
  c.isAlphanum || "!$&'()*+,-.:;=@[]_~".toList.contains c

/-- What is known of an authority while its characters are checked. -/
structure AuthorityCheck where
  colons : Nat
  opened : Bool
  closed : Bool
  percent : Bool

/-- Check one more character of an authority. -/
def AuthorityCheck.step (k : AuthorityCheck) (c : Char) : Except Fault AuthorityCheck :=
  if c = ':' then
    if 8 ≤ k.colons then .error .invalidAuthority else .ok { k with colons := k.colons + 1 }
  else if c = '[' then
    if k.percent || k.opened then .error .invalidAuthority else .ok { k with opened := true }
  else if c = ']' then
    if !k.opened || k.closed then .error .invalidAuthority
    else .ok { k with closed := true, colons := 0, percent := false }
  else if c = '@' then .ok { k with colons := 0, percent := false }
  else if c = '%' then .ok { k with percent := true }
  else if isAuthorityChar c then .ok k
  else .error .invalidCharacter

/-- Check an authority. -/
def checkAuthority (s : List Char) : Except Fault Unit := do
  let k ← s.foldlM AuthorityCheck.step ⟨0, false, false, false⟩
  if k.opened != k.closed || 1 < k.colons || s.getLast? = some '@' || k.percent then
    .error .invalidAuthority
  else .ok ()

/-- Read an authority up to the path, the query or a fragment. -/
def parseAuthority (s : List Char) : Except Fault (List Char × List Char) := do
  let (authority, rest) := splitAt (fun c => c = '/' || c = '?' || c = '#') s
  checkAuthority authority
  .ok (authority, rest)

/-- Read a target that does not start with a slash. -/
def parseFull (s : List Char) : Except Fault Target := do
  match ← scheme? s with
  | none =>
    let (authority, rest) ← parseAuthority s
    if rest.isEmpty then .ok { scheme := none, authority, path := [], query := none }
    else .error .invalidFormat
  | some (scheme, rest) =>
    let (authority, rest) ← parseAuthority rest
    if authority.isEmpty then .error .invalidFormat
    else parsePath (some scheme) authority rest

/-- Read a target. -/
def parse (s : List Char) : Except Fault Target :=
  if maxLength < (Text.utf8 s).length then .error .tooLong
  else match s with
    | [] => .error .empty
    | ['*'] => .ok { scheme := none, authority := [], path := ['*'], query := none }
    | '/' :: _ => parsePath none [] s
    | ['?'] | ['#'] => .error .invalidCharacter
    | _ => parseFull s

/-- The text of a target. -/
def text (t : Target) : List Char :=
  (match t.scheme with
    | some scheme => scheme ++ [':', '/', '/']
    | none => []) ++ t.authority ++ t.path ++
    (match t.query with
    | some query => '?' :: query
    | none => [])

/-- The host and port of an authority, without the user information. -/
def hostPart (authority : List Char) : List Char :=
  match splitAt (· = '@') authority with
  | (_, _ :: host) => host
  | (host, []) => host

end Target

end StreamRoster
