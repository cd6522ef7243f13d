import StreamRoster.Url.Basic

/-!
# Reading URLs

Reading a whole URL. Blanks around it and line breaks inside it are dropped
first, then the parts are taken from the left: the scheme, the host with all
that belongs to it, the path, the query and the fragment.

Under a special scheme any number of slashes leads to the host, which must be
there. Under the scheme of local files the host may be missing. Under any
other scheme a host comes only behind two slashes, and without a slash the
rest is one text.

## Main definitions

* `Url.parse`: Reads a URL.
-/

namespace StreamRoster

namespace Url

/-- Drop the blanks around a text and the line breaks inside it. -/
def clean (s : List Char) : List Char :=
  let blank (c : Char) : Bool := c.toNat ≤ 0x20
  (((s.dropWhile blank).reverse.dropWhile blank).reverse).filter
    fun c => c ≠ '\t' && c ≠ '\n' && c ≠ '\r'

/-- Cut a text before the first character that satisfies a test. -/
def cut (p : Char → Bool) (s : List Char) : List Char × List Char :=
  (s.takeWhile (!p ·), s.dropWhile (!p ·))

/-- The text before the last character `c` and the text behind it. -/
def cutLast? (c : Char) (s : List Char) : Option (List Char × List Char) :=
  match cut (· = c) s.reverse with
  | (after, _ :: before) => some (before.reverse, after.reverse)
  | (_, []) => none

/-- The query and the fragment in the rest of a URL. -/
def tail (special : Bool) (s : List Char) : Option (List Char) × Option (List Char) :=
  let (front, back) := cut (· = '#') s
  (match front with
    | '?' :: query => some (Percent.encode (isQueryEscaped special) query)
    | _ => none,
   match back with
    | _ :: fragment => some (Percent.encode isFragmentEscaped fragment)
    | [] => none)

/-- The user name and the password of the text before a host. -/
def readUser (s : List Char) : List Char × List Char :=
  let (user, password) := cut (· = ':') s
  (Percent.encode isUserEscaped user, Percent.encode isUserEscaped (password.drop 1))

/-- Cut a host from its port, at the first colon outside of brackets. -/
def cutPort (inside : Bool) : List Char → List Char × List Char
  | [] => ([], [])
  | c :: s =>
    if c = ':' && !inside then ([], c :: s)
    else
      let inside := if c = '[' then true else if c = ']' then false else inside
      let (host, port) := cutPort inside s
      (c :: host, port)

/-- Read a port, and give the text behind it, which may start with a backslash
    only. No digits are no port. -/
def readPort (scheme : Scheme) (s : List Char) : Except Fault (Option Nat × List Char) :=
  let (digits, rest) := cut (!·.isDigit) s
  match Ipv4.number? 10 digits with
  | none => .error .invalidPort
  | some port =>
    if 0x10000 ≤ port then .error .invalidPort
    else if !rest.isEmpty && rest.head? ≠ some '\\' then .error .invalidPort
    else if digits.isEmpty || scheme.defaultPort? = some port then .ok (none, rest)
    else .ok (some port, rest)

/-- The host of a URL with all that belongs to it, and the text behind. -/
structure Authority where
  user : List Char
  password : List Char
  host : Host
  port : Option Nat
  rest : List Char

/-- Read the host text of a URL. -/
def readHost (scheme : Scheme) (s : List Char) : Except Fault Host :=
  if scheme.isSpecial then
    if s.isEmpty then .error .emptyHost else Host.read s
  else Host.readPlain s

/-- Read the host of a URL with all that belongs to it. A user or a port needs
    a host. -/
def readAuthority (scheme : Scheme) (s : List Char) : Except Fault Authority := do
  let ends (c : Char) : Bool := c = '/' || c = '?' || c = '#' || (scheme.isSpecial && c = '\\')
  let (front, back) := cut ends s
  let (named, user, server) := match cutLast? '@' front with
    | some (user, server) => (true, user, server)
    | none => (false, [], front)
  if named && user.isEmpty && server.isEmpty && !back.isEmpty then throw .emptyHost
  let (user, password) := readUser user
  let (hostText, portText) := cutPort false server
  let host ← readHost scheme hostText
  if host = Host.empty && !(portText.isEmpty && user.isEmpty && password.isEmpty) then
    throw .emptyHost
  let (port, left) ← readPort scheme (portText.drop 1)
  return ⟨user, password, host, port, left ++ back⟩

/-- The segments of the path that a text starts with, and the rest. A slash in
    front belongs to the path. -/
def readPath (special : Bool) (s : List Char) : List (List Char) × List Char :=
  let (path, rest) := cut (fun c => c = '?' || c = '#') s
  let isSlash (c : Char) : Bool := c = '/' || (special && c = '\\')
  let inner := match path with
    | c :: inner => if isSlash c then inner else path
    | [] => []
  (Path.read special inner, rest)

/-- The URL of a host and the text behind it. Without a special scheme, no path
    is a path without segments. -/
def ofAuthority (scheme : Scheme) (a : Authority) : Url :=
  let special := scheme.isSpecial
  let (segments, rest) := readPath special a.rest
  let bare := match a.rest with
    | [] => true
    | c :: _ => c = '?' || c = '#'
  let (query, fragment) := tail special rest
  { scheme, user := a.user, password := a.password, host := some a.host, port := a.port,
    path := .segments (if bare && !special then [] else segments), query, fragment }

/-- Read a URL with a special scheme, behind the colon. -/
def parseSpecial (scheme : Scheme) (s : List Char) : Except Fault Url := do
  let a ← readAuthority scheme (s.dropWhile fun c => c = '/' || c = '\\')
  return ofAuthority scheme a

/-- Whether a text is a letter with a colon or a bar. -/
def isDriveLetter (s : List Char) : Bool := s.length = 2 && Path.isDrive s

/-- The path of a local file: without empty segments in front, and with a
    colon behind the letter of a drive. The flag tells whether it names a
    drive. -/
def filePath (segments : List (List Char)) : List (List Char) × Bool :=
  match segments.dropWhile List.isEmpty with
  | [] => ([[]], false)
  | first :: rest =>
    if isDriveLetter first then ((first.take 1 ++ [':']) :: rest, true) else (first :: rest, false)

/-- The URL of a local file. A drive needs no host. -/
def ofFile (host : Host) (s : List Char) : Url :=
  let (segments, rest) := readPath true s
  let (path, drive) := filePath segments
  let (query, fragment) := tail true rest
  { scheme := Scheme.file, user := [], password := [],
    host := some (if drive then Host.empty else host), port := none, path := .segments path,
    query, fragment }

/-- Read the URL of a local file, behind the colon. -/
def parseFile (s : List Char) : Except Fault Url :=
  let isSlash (c : Char) : Bool := c = '/' || c = '\\'
  match s with
  | a :: b :: rest =>
    if isSlash a && isSlash b then
      let (host, back) := cut (fun c => isSlash c || c = '?' || c = '#') rest
      if host.isEmpty || isDriveLetter host then .ok (ofFile Host.empty rest)
      else do
        let host ← Host.read host
        return ofFile (if host = .name "localhost".toList then Host.empty else host) back
    else .ok (ofFile Host.empty s)
  | _ => .ok (ofFile Host.empty s)

/-- Read a URL with any other scheme, behind the colon. -/
def parsePlain (scheme : Scheme) (s : List Char) : Except Fault Url :=
  match s with
  | '/' :: '/' :: rest => do
    let a ← readAuthority scheme rest
    return ofAuthority scheme a
  | s =>
    let (path, rest) := match s with
      | '/' :: _ => let (segments, rest) := readPath false s; (Path.segments segments, rest)
      | _ =>
        let (text, rest) := cut (fun c => c = '?' || c = '#') s
        (Path.plain (Percent.encode Percent.isControl text), rest)
    let (query, fragment) := tail false rest
    .ok { scheme, user := [], password := [], host := none, port := none, path, query, fragment }

/-- Read a URL. -/
def parse (s : List Char) : Except Fault Url :=
  match Scheme.read? (clean s) with
  | none => .error .relative
  | some (scheme, rest) =>
    if scheme = Scheme.file then parseFile rest
    else if scheme.isSpecial then parseSpecial scheme rest
    else parsePlain scheme rest

end Url

end StreamRoster
