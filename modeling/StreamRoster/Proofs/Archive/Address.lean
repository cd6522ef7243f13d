import StreamRoster.Archive.Request
import StreamRoster.Proofs.Url.Extension

/-!
# The Address of the Streams

Which URL an archive is asked at.

The address is put together as a text, from the base URL and the name of the
instance as they were configured, and read as a URL afterwards. What belongs to
which part is decided only then. Slashes at the end of the base are taken off
first, so their number does not matter (`request_slashes`). The server is that of
the base, whatever else stands in the two texts (`server_of_request`). The path
is that of the base with more segments behind it only if the base may be extended
(`Appendable`): it has no query and no fragment, and does not end with a blank or
with an empty segment other than those of its slashes.

## Main definitions

* `Archive.Solid`: A base URL that does not end with a blank.
* `Archive.Appendable`: A base URL to which segments can be appended.
* `Archive.listPath`: What stands behind the base in the address.

## Theorems

* `Archive.request_slashes`: Slashes at the end of the base do not matter.
* `Archive.parse_address`: What the address is read as.
* `Archive.url_of_request`, `Archive.exists_request`: The URL of a request.
* `Archive.server_of_request`: The server of a request.
-/

namespace StreamRoster

namespace Archive

/-! ### Slashes at the end -/

theorem exists_slashes (s : List Char) : ∃ k, s = trimSlashes s ++ List.replicate k '/' := by
  have hparts : (s.reverse.dropWhile (· = '/')).reverse ++
      (s.reverse.takeWhile (· = '/')).reverse = s := by
    rw [← List.reverse_append, List.takeWhile_append_dropWhile, List.reverse_reverse]
  refine ⟨(s.reverse.takeWhile (· = '/')).reverse.length, ?_⟩
  have hslashes : (s.reverse.takeWhile (· = '/')).reverse =
      List.replicate (s.reverse.takeWhile (· = '/')).reverse.length '/' := by
    refine List.eq_replicate_of_mem fun c hc => ?_
    have hslash := List.mem_takeWhile_imp (p := fun c => decide (c = '/')) (List.mem_reverse.mp hc)
    exact of_decide_eq_true hslash
  rw [← hslashes, trimSlashes, hparts]

theorem trimSlashes_append (s : List Char) (k : Nat) :
    trimSlashes (s ++ List.replicate k '/') = trimSlashes s := by
  have hslashes : ∀ c ∈ List.replicate k '/', decide (c = '/') = true := fun c hc =>
    decide_eq_true (List.eq_of_mem_replicate hc)
  rw [trimSlashes, List.reverse_append, List.reverse_replicate,
    List.dropWhile_append_of_pos hslashes, trimSlashes]

/-- Slashes at the end of the base do not change the request. -/
theorem request_slashes (a : Archive) (k : Nat) :
    request { a with base := String.ofList (a.base.toList ++ List.replicate k '/') } =
      request a := by
  have haddress : address { a with base := String.ofList (a.base.toList ++ List.replicate k '/') } =
      address a := by
    rw [address, address, String.toList_ofList, trimSlashes_append]
  rw [request, request, haddress]

/-! ### The address as a URL -/

/-- A base URL that does not end with a blank, but for its slashes. -/
def Solid (base : String) : Prop := ∃ c ∈ (trimSlashes base.toList).getLast?, Url.isEdge c = false

/-- A base URL to which segments can be appended: without a query and a fragment,
    without a blank at its end, and with no empty segment at the end of its path
    but those of its slashes. -/
structure Appendable (base : String) : Prop where
  marks : ∀ c ∈ base.toList, Url.isMark c = false
  solid : Solid base
  single : ∀ u front, Url.parse (trimSlashes base.toList ++ ['/']) = .ok u →
    u.path ≠ .segments (front ++ [[], []])

/-- What stands behind the base and a slash in the address. -/
def listPath (name : List Char) : List Char :=
  "api/archive/".toList ++ name ++ "/streams".toList

theorem address_eq (a : Archive) :
    a.address = trimSlashes a.base.toList ++ '/' :: listPath a.inst.toList := by
  have hfront : "/api/archive/".toList = '/' :: "api/archive/".toList := by decide +kernel
  unfold address listPath
  simp only [hfront, List.append_assoc, List.cons_append]

theorem solid_listPath (name : List Char) :
    ∀ c ∈ (listPath name).getLast?, Url.isEdge c = false := by
  intro c hc
  have hlast : "/streams".toList.getLast? = some 's' := by decide +kernel
  unfold listPath at hc
  rw [List.getLast?_append, hlast, Option.some_or] at hc
  rw [← Option.some.inj hc]
  rfl

/-- The part of the list in an address that is in front of the first mark, and the
    part from there on. -/
def listParts (name : List Char) : List Char × List Char :=
  Url.cut Url.isMark ((listPath name).filter Url.isKept)

/-- The address has the server of the base. -/
theorem parse_server (base : String) (hsolid : Solid base) (u : Url)
    (hu : Url.parse base.toList = .ok u) (hspecial : u.scheme.isSpecial = true) (inst : String)
    (key : Option String) :
    ∃ path query fragment, Url.parse (address ⟨base, inst, key⟩) =
      .ok { u with path := path, query := query, fragment := fragment } := by
  rcases exists_slashes base.toList with ⟨k, hk⟩
  rw [hk] at hu
  rw [address_eq]
  exact Url.parse_server _ k u hsolid hu hspecial _ (solid_listPath inst.toList)

/-- Behind the segments of the base stand those of the list. -/
theorem parse_address (base : String) (hbase : Appendable base) (u : Url)
    (hu : Url.parse base.toList = .ok u) (hspecial : u.scheme.isSpecial = true) :
    ∃ root, (∃ j, u.path = .segments (root ++ List.replicate j [])) ∧ root.getLast? ≠ some [] ∧
      ∀ (inst : String) (key : Option String), Url.parse (address ⟨base, inst, key⟩) =
        .ok { u with
          path := .segments (Url.Path.place root
            (Text.split Url.isSlash (listParts inst.toList).1))
          query := (Url.tail true (listParts inst.toList).2).1
          fragment := (Url.tail true (listParts inst.toList).2).2 } := by
  rcases exists_slashes base.toList with ⟨k, hk⟩
  have hmarks : ∀ c ∈ trimSlashes base.toList, Url.isMark c = false := fun c hc =>
    hbase.marks c (hk ▸ List.mem_append_left _ hc)
  rw [hk] at hu
  rcases Url.parse_extend _ k u hbase.solid hmarks hu hspecial with ⟨root, hpath, hext⟩
  refine ⟨root, hpath, fun hlast => ?_, fun inst key => ?_⟩
  · rcases List.getLast?_eq_some_iff.mp hlast with ⟨front, rfl⟩
    refine hbase.single _ front (hext [] nofun) (congrArg Url.Path.segments ?_)
    have hempty := Url.Path.place_empties (front ++ [[]]) 1
    rw [List.append_assoc] at hempty
    exact hempty
  · rw [address_eq]
    exact hext (listPath inst.toList) (solid_listPath inst.toList)

/-! ### The request -/

theorem takeUser_eq (u : Url) :
    ∃ user password, (takeUser u).1 = { u with user := user, password := password } := by
  rw [takeUser]
  split
  · exact ⟨_, _, rfl⟩
  · dsimp only
    split_ifs
    all_goals exact ⟨_, _, rfl⟩

/-- The URL of a request is that of the address, but for the user. -/
theorem url_of_request (a : Archive) (u : Url) (hu : Url.parse a.address = .ok u) (r : Request)
    (h : request a = .ok r) : r.url = (takeUser u).1 := by
  rw [request, hu] at h
  dsimp only at h
  split_ifs at h
  split at h
  · rcases Except.ok.inj h with rfl
    rfl
  · split at h
    · rcases Except.ok.inj h with rfl
      rfl
    · cases h

/-- A request is made if the address names a host, and the key can be written. -/
theorem exists_request (a : Archive) (u : Url) (hu : Url.parse a.address = .ok u)
    (hhost : u.hasHost = true) (hkey : ∀ key ∈ a.key, (Authorization.bearer? key).isSome = true) :
    ∃ r, request a = .ok r := by
  rw [request, hu]
  dsimp only
  rw [if_neg (by rw [hhost]; exact Bool.false_ne_true)]
  cases hnone : a.key with
  | none => exact ⟨_, rfl⟩
  | some key =>
      rcases Option.isSome_iff_exists.mp (hkey key hnone) with ⟨value, hvalue⟩
      simp only [hvalue]
      exact ⟨_, rfl⟩

/-- The server of a request is that of the base. -/
theorem server_of_request (a : Archive) (base : Url) (hsolid : Solid a.base)
    (hbase : Url.parse a.base.toList = .ok base) (hspecial : base.scheme.isSpecial = true)
    (r : Request) (h : request a = .ok r) :
    r.url.scheme = base.scheme ∧ r.url.host = base.host ∧ r.url.port = base.port := by
  rcases parse_server a.base hsolid base hbase hspecial a.inst a.key with
    ⟨path, query, fragment, hu⟩
  rw [url_of_request a _ hu r h]
  rcases takeUser_eq { base with path := path, query := query, fragment := fragment } with
    ⟨user, password, hsame⟩
  rw [hsame]
  exact ⟨rfl, rfl, rfl⟩

end Archive

end StreamRoster
