import StreamRoster.Proofs.Json.Extent
import StreamRoster.Proofs.Url.Cutting

/-!
# Extended URLs

What a URL becomes when a slash and more text are put behind it.

The server stays the same, whatever the text is (`readAuthority_append`). What
the server is called, who the user is and which port is meant stands in front of
the first slash behind the scheme, and everything that is put behind a URL is put
behind that slash, or starts with it.

The path is extended by the segments of the text. The segments in place are those
of the URL itself, up to the slashes at its end, and they are the same whether
slashes or a longer text follows. That is what makes the two comparable: neither
the URL nor its extension ends where those segments do (`readPath_slash`,
`readPath_slashes`).

A URL that has a query or a fragment cannot be extended like that, and neither
can one that ends with blanks, since these are dropped only at the end.

## Main definitions

* `Url.readServer`: Reads the text between a user and a path.
* `Url.isEnd`: What ends the server in a special URL.
* `Url.parts`: The raw segments of the text behind a server.

## Theorems

* `Url.readAuthority_append`: The server is read from the front.
* `Url.parseSpecial_append`: A URL is read from its front.
* `Url.readPath_slash`, `Url.readPath_slashes`: The path of an extended URL.
* `Url.parse_server`: An extended URL has the same server.
* `Url.parse_extend`: What an extended URL is read as.
-/

namespace StreamRoster

open Json (bind_eq_ok)

/-! ### Schemes -/

theorem Scheme.read?_eq_some_iff (s : List Char) (scheme : Scheme) (rest : List Char) :
    read? s = some (scheme, rest) ↔
      ∃ c name, s.takeWhile isChar = c :: name ∧ s.dropWhile isChar = ':' :: rest ∧
        c.isAlpha = true ∧ scheme = ⟨String.ofList ((c :: name).map Char.toLower)⟩ := by
  refine ⟨fun h => ?_, fun h => ?_⟩
  · rw [read?] at h
    split at h
    · rename_i c name behind htake hdrop
      split_ifs at h with halpha
      rcases Prod.mk.inj (Option.some.inj h) with ⟨rfl, rfl⟩
      exact ⟨c, name, htake, hdrop, halpha, rfl⟩
    · cases h
  · rcases h with ⟨c, name, htake, hdrop, halpha, rfl⟩
    rw [read?, htake, hdrop]
    simp only [halpha, if_true]

/-- A scheme is read from the front. -/
theorem Scheme.read?_append (s t : List Char) (ht : Url.Slashed t) (scheme : Scheme)
    (rest : List Char) (h : read? (s ++ t) = some (scheme, rest)) :
    ∃ behind, (∀ c ∈ behind, c ∈ s) ∧ rest = behind ++ t ∧
      ∀ other, Url.Slashed other → read? (s ++ other) = some (scheme, behind ++ other) := by
  have hcut := fun other hother => Url.takeWhile_append_slashed isChar rfl s other hother
  rcases (read?_eq_some_iff _ _ _).mp h with ⟨c, name, htake, hdrop, halpha, hscheme⟩
  rw [(hcut t ht).1] at htake
  rw [(hcut t ht).2] at hdrop
  cases hbehind : s.dropWhile isChar with
  | nil =>
      -- A slash is no colon.
      rw [hbehind, List.nil_append] at hdrop
      rcases hdrop with rfl
      exact absurd (ht ':' rfl) (by decide)
  | cons d behind =>
      rw [hbehind] at hdrop
      rcases List.cons.inj hdrop with ⟨rfl, rfl⟩
      refine ⟨behind, fun e he => ?_, rfl, fun other hother => ?_⟩
      · have hmem : e ∈ s.dropWhile isChar := hbehind ▸ List.mem_cons_of_mem _ he
        exact (List.dropWhile_suffix isChar).mem hmem
      · refine (read?_eq_some_iff _ _ _).mpr ⟨c, name, ?_, ?_, halpha, hscheme⟩
        · rw [(hcut other hother).1, htake]
        · rw [(hcut other hother).2, hbehind]
          rfl

namespace Url

/-! ### Servers -/

/-- What ends the server in a special URL. -/
def isEnd (c : Char) : Bool := c = '/' || c = '?' || c = '#' || c = '\\'

/-- The user in front of a server, and the server. -/
def userAndServer (front : List Char) : List Char × List Char :=
  (cutLast? '@' front).getD ([], front)

/-- Read the text between a user and a path. -/
def readServer (scheme : Scheme) (user server back : List Char) : Except Fault Authority := do
  let (user, password) := readUser user
  let (hostText, portText) := cutPort false server
  let host ← readHost scheme hostText
  if host = Host.empty && !(portText.isEmpty && user.isEmpty && password.isEmpty) then
    throw .emptyHost
  let (port, left) ← readPort scheme (portText.drop 1)
  return ⟨user, password, host, port, left ++ back⟩

theorem mem_of_mem_cut (p : Char → Bool) (s : List Char) (c : Char)
    (h : c ∈ (cut p s).1 ∨ c ∈ (cut p s).2) : c ∈ s := by
  have hparts : (cut p s).1 ++ (cut p s).2 = s := List.takeWhile_append_dropWhile
  rw [← hparts]
  exact List.mem_append.mpr h

theorem not_end_of_mem_cut (p : Char → Bool) (s : List Char) (c : Char) (h : c ∈ (cut p s).1) :
    p c = false :=
  (Bool.not_eq_true' (p c)).mp (List.mem_takeWhile_imp (p := fun c => !p c) h)

theorem mem_of_mem_cutPort (inside : Bool) (s : List Char) (c : Char)
    (h : c ∈ (cutPort inside s).2) : c ∈ s := by
  induction s generalizing inside with
  | nil => exact h
  | cons d s ih =>
      rw [cutPort] at h
      split_ifs at h
      · exact h
      all_goals exact List.mem_cons_of_mem d (ih _ h)

theorem mem_of_mem_userAndServer (front : List Char) (c : Char)
    (h : c ∈ (userAndServer front).2) : c ∈ front := by
  rw [userAndServer, cutLast?] at h
  cases hcut : cut (fun c => c = '@') front.reverse with
  | mk after rest =>
      rw [hcut] at h
      cases rest with
      | nil => exact h
      | cons d before =>
          have hmem := mem_of_mem_cut (fun c => c = '@') front.reverse c
          rw [hcut] at hmem
          exact List.mem_reverse.mp (hmem (Or.inl (List.mem_reverse.mp h)))

/-- What is left behind a port is part of its text, and starts with a
    backslash. -/
theorem readPort_left (scheme : Scheme) (s : List Char) (port : Option Nat) (left : List Char)
    (h : readPort scheme s = .ok (port, left)) :
    (∀ c ∈ left, c ∈ s) ∧ ∀ c ∈ left.head?, c = '\\' := by
  have hmem := fun c hc => mem_of_mem_cut (fun c => !c.isDigit) s c (Or.inr hc)
  rw [readPort] at h
  rcases hcut : cut (fun c => !c.isDigit) s with ⟨digits, rest⟩
  rw [hcut] at h hmem
  dsimp only at h
  split at h
  · cases h
  · split_ifs at h with hlarge hrest
    all_goals
      rcases Prod.mk.inj (Except.ok.inj h) with ⟨_, rfl⟩
      refine ⟨hmem, fun c hc => ?_⟩
      rw [Bool.and_eq_true, decide_eq_true_eq, not_and, not_not] at hrest
      refine (Option.some.inj ((hrest ?_).symm.trans hc)).symm
      rw [Bool.not_eq_true', List.isEmpty_eq_false_iff]
      rintro rfl
      cases hc

/-- A special URL names a host. -/
theorem readServer_nil (scheme : Scheme) (hspecial : scheme.isSpecial = true)
    (user back : List Char) : readServer scheme user [] back = .error .emptyHost := by
  have hfails : readHost scheme [] = .error .emptyHost := by
    rw [readHost, if_pos hspecial]
    rfl
  unfold readServer
  simp only [cutPort, hfails]
  rfl

/-- The text behind a server is handed on. -/
theorem readServer_append (scheme : Scheme) (user server back : List Char) (a : Authority)
    (h : readServer scheme user server back = .ok a) :
    ∃ left, a.rest = left ++ back ∧ (∀ c ∈ left, c ∈ server) ∧ (∀ c ∈ left.head?, c = '\\') ∧
      ∀ other, readServer scheme user server other = .ok { a with rest := left ++ other } := by
  unfold readServer at h ⊢
  rcases (bind_eq_ok _ _ _).mp h with ⟨host, hhost, h⟩
  dsimp only at h
  split_ifs at h with hempty
  · cases h
  · rcases (bind_eq_ok _ _ _).mp h with ⟨⟨port, left⟩, hport, h⟩
    rcases Except.ok.inj h with rfl
    rcases readPort_left scheme _ port left hport with ⟨hmem, hhead⟩
    refine ⟨left, rfl, fun c hc => ?_, hhead, fun other => ?_⟩
    · exact mem_of_mem_cutPort false server c (List.mem_of_mem_drop (hmem c hc))
    · refine (bind_eq_ok _ _ _).mpr ⟨host, hhost, ?_⟩
      dsimp only
      rw [if_neg hempty]
      exact (bind_eq_ok _ _ _).mpr ⟨(port, left), hport, rfl⟩

/-- In a special URL it needs no check of its own that a user has a host. -/
theorem readAuthority_eq (scheme : Scheme) (hspecial : scheme.isSpecial = true) (s : List Char) :
    readAuthority scheme s = readServer scheme (userAndServer (cut isEnd s).1).1
      (userAndServer (cut isEnd s).1).2 (cut isEnd s).2 := by
  have hends : (fun c => decide (c = '/') || decide (c = '?') || decide (c = '#') ||
      (scheme.isSpecial && decide (c = '\\'))) = isEnd := by
    rw [hspecial]
    rfl
  unfold readAuthority
  simp only [hends]
  rcases cut isEnd s with ⟨front, back⟩
  rw [userAndServer]
  cases hlast : cutLast? '@' front with
  | none => rfl
  | some x =>
      rcases x with ⟨user, server⟩
      dsimp only [Option.getD_some]
      split_ifs with hcheck
      · simp only [Bool.true_and, Bool.and_eq_true] at hcheck
        rcases List.isEmpty_iff.mp hcheck.1.2 with rfl
        rw [readServer_nil scheme hspecial]
        rfl
      · rfl

/-- A server is read from the front, and what stands behind the slash does not
    matter to it. -/
theorem readAuthority_append (scheme : Scheme) (hspecial : scheme.isSpecial = true)
    (s t : List Char) (ht : Slashed t) (a : Authority) (h : readAuthority scheme (s ++ t) = .ok a) :
    a.rest = (cut isEnd s).2 ++ t ∧ ∀ other, Slashed other →
      readAuthority scheme (s ++ other) = .ok { a with rest := (cut isEnd s).2 ++ other } := by
  rw [readAuthority_eq scheme hspecial, cut_append isEnd rfl s t ht] at h
  rcases readServer_append scheme _ _ _ a h with ⟨left, hrest, hmem, hhead, hother⟩
  -- A server has no backslash, so nothing is left behind its port.
  have hnone : left = [] := by
    cases left with
    | nil => rfl
    | cons c left =>
        rcases hhead c rfl with rfl
        have hserver := mem_of_mem_userAndServer _ _ (hmem _ List.mem_cons_self)
        exact absurd (not_end_of_mem_cut isEnd s _ hserver) nofun
  rcases hnone with rfl
  refine ⟨hrest, fun other hslashed => ?_⟩
  rw [readAuthority_eq scheme hspecial, cut_append isEnd rfl s other hslashed]
  exact hother _

/-! ### Paths -/

/-- The raw segments of the text behind a server. -/
def parts : List Char → List (List Char)
  | [] => []
  | _ :: inner => Text.split isSlash inner

/-- The path of a text is that of its part in front of the first mark, without
    the slash it starts with. -/
theorem readPath_eq (s : List Char) (hslash : ∀ c ∈ (cut isMark s).1.head?, isSlash c = true) :
    readPath true s = (Path.place [] (Text.split isSlash (cut isMark s).1.tail),
      (cut isMark s).2) := by
  have hmarks : cut (fun c => c = '?' || c = '#') s = cut isMark s := rfl
  rw [readPath, hmarks]
  rcases hcut : cut isMark s with ⟨path, rest⟩
  rw [hcut] at hslash
  cases path with
  | nil => rfl
  | cons c inner =>
      have hc : (decide (c = '/') || (true && decide (c = '\\'))) = true := hslash c rfl
      dsimp only
      rw [if_pos hc]
      rfl

section
variable (back : List Char) (hmarks : ∀ c ∈ back, isMark c = false)
  (hslash : ∀ c ∈ back.head?, isSlash c = true)

include hmarks hslash

/-- The path of a text with a slash and more behind it. -/
theorem readPath_slash (ext : List Char) :
    readPath true (back ++ '/' :: ext) =
      (Path.place [] (parts back ++ Text.split isSlash (cut isMark ext).1),
        (cut isMark ext).2) := by
  have hcut : cut isMark (back ++ '/' :: ext) =
      (back ++ '/' :: (cut isMark ext).1, (cut isMark ext).2) := by
    have hext := cut_of_none isMark ['/'] ext (List.forall_mem_singleton.mpr rfl)
    rw [cut_of_none isMark back _ hmarks, ← List.singleton_append, hext]
    rfl
  rw [readPath_eq, hcut]
  · cases back with
    | nil => rfl
    | cons c inner =>
        have hsplit := Text.split_append isSlash inner (cut isMark ext).1 '/' rfl
        rw [List.cons_append, List.tail_cons, hsplit, parts]
  · rw [hcut]
    cases back with
    | nil => exact fun c hc => (Option.some.inj hc) ▸ rfl
    | cons c inner => exact hslash

/-- The path of a text with slashes behind it: empty segments come behind those
    in place. -/
theorem readPath_slashes (k : Nat) :
    ∃ j, readPath true (back ++ List.replicate k '/') =
      ((parts back).foldl Path.settle [] ++ List.replicate j [], []) := by
  have hnone : ∀ c ∈ List.replicate k '/', isMark c = false := fun c hc => by
    rw [List.eq_of_mem_replicate hc]
    rfl
  cases k with
  | zero =>
      -- The last segment is placed as it is, which leaves at most one that is empty.
      have hcut : cut isMark back = (back, []) := by
        have hall := cut_of_none isMark back [] hmarks
        rw [List.append_nil] at hall
        exact hall.trans (congrArg (·, []) (List.append_nil back))
      rw [List.replicate_zero, List.append_nil, readPath_eq, hcut]
      · cases back with
        | nil => exact ⟨1, rfl⟩
        | cons c inner =>
            rcases Path.exists_place [] (Text.split isSlash inner) with ⟨j, hj⟩
            exact ⟨j, congrArg (·, []) hj⟩
      · rw [hcut]
        exact hslash
  | succ k =>
      have hcut : cut isMark (List.replicate k '/') = (List.replicate k '/', []) := by
        have hall := cut_of_none isMark (List.replicate k '/') [] fun c hc =>
          hnone c (List.mem_cons_of_mem _ hc)
        rw [List.append_nil] at hall
        exact hall.trans (congrArg (·, []) (List.append_nil _))
      -- Each slash more is an empty segment more.
      refine ⟨k + 1, ?_⟩
      rw [List.replicate_succ, readPath_slash back hmarks hslash, hcut,
        Text.split_replicate isSlash '/' rfl,
        Path.place_append [] _ (List.replicate (k + 1) []) (List.cons_ne_nil _ _),
        Path.place_empties]

end

/-! ### Whole URLs -/

theorem scheme_of_parseFile (s : List Char) (u : Url) (h : parseFile s = .ok u) :
    u.scheme = Scheme.file := by
  rw [parseFile.eq_def] at h
  split at h
  · dsimp only at h
    split_ifs at h
    · rcases Except.ok.inj h with rfl
      rfl
    · rcases (bind_eq_ok _ _ _).mp h with ⟨host, _, h⟩
      rcases Except.ok.inj h with rfl
      rfl
    · rcases Except.ok.inj h with rfl
      rfl
  · rcases Except.ok.inj h with rfl
    rfl

theorem scheme_of_parseSpecial (scheme : Scheme) (s : List Char) (u : Url)
    (h : parseSpecial scheme s = .ok u) : u.scheme = scheme := by
  rcases (bind_eq_ok _ _ _).mp h with ⟨a, _, hu⟩
  rcases Except.ok.inj hu with rfl
  rfl

theorem scheme_of_parsePlain (scheme : Scheme) (s : List Char) (u : Url)
    (h : parsePlain scheme s = .ok u) : u.scheme = scheme := by
  rw [parsePlain.eq_def] at h
  split at h
  · rcases (bind_eq_ok _ _ _).mp h with ⟨a, _, hu⟩
    rcases Except.ok.inj hu with rfl
    rfl
  · rcases Except.ok.inj h with rfl
    rfl

/-- A special URL is read behind its scheme. -/
theorem parseSpecial_of_parse (s : List Char) (u : Url) (h : parse s = .ok u)
    (hspecial : u.scheme.isSpecial = true) :
    ∃ rest, Scheme.read? (clean s) = some (u.scheme, rest) ∧
      parseSpecial u.scheme rest = .ok u := by
  rw [parse] at h
  split at h
  · cases h
  · rename_i scheme rest hread
    split_ifs at h with hfile hscheme
    · rw [scheme_of_parseFile rest u h] at hspecial
      exact absurd hspecial (by decide)
    · rw [scheme_of_parseSpecial scheme rest u h]
      exact ⟨rest, hread, h⟩
    · rw [scheme_of_parsePlain scheme rest u h] at hspecial
      exact absurd hspecial hscheme

theorem parse_of_read (s : List Char) (scheme : Scheme) (rest : List Char)
    (hspecial : scheme.isSpecial = true) (h : Scheme.read? (clean s) = some (scheme, rest)) :
    parse s = parseSpecial scheme rest := by
  have hfile : scheme ≠ Scheme.file := by
    rintro rfl
    exact absurd hspecial (by decide)
  rw [parse, h]
  simp only [if_neg hfile, if_pos hspecial]

/-- The URL of a special scheme, field by field. -/
theorem ofAuthority_eq (scheme : Scheme) (hspecial : scheme.isSpecial = true) (a : Authority) :
    ofAuthority scheme a =
      { scheme, user := a.user, password := a.password, host := some a.host, port := a.port,
        path := .segments (readPath true a.rest).1,
        query := (tail true (readPath true a.rest).2).1,
        fragment := (tail true (readPath true a.rest).2).2 } := by
  rw [ofAuthority, hspecial]
  simp only [Bool.not_true, Bool.and_false, Bool.false_eq_true, if_false]

/-- A URL is read from the front, with slashes and with more behind it. -/
theorem parseSpecial_append (scheme : Scheme) (hspecial : scheme.isSpecial = true)
    (s : List Char) (k : Nat) (u : Url)
    (h : parseSpecial scheme (s ++ List.replicate k '/') = .ok u) :
    ∃ (server : List Char) (a : Authority), (∀ c ∈ server, c ∈ s) ∧
      u = ofAuthority scheme { a with rest := (cut isEnd server).2 ++ List.replicate k '/' } ∧
      ∀ other, Slashed other → parseSpecial scheme (s ++ other) =
        .ok (ofAuthority scheme { a with rest := (cut isEnd server).2 ++ other }) := by
  have hdrop : ∀ other, s.dropWhile isSlash ≠ [] →
      (s ++ other).dropWhile isSlash = s.dropWhile isSlash ++ other := by
    intro other hne
    rw [List.dropWhile_append, if_neg fun hempty => hne (List.isEmpty_iff.mp hempty)]
  rcases (bind_eq_ok _ _ _).mp h with ⟨a, ha, hu⟩
  rcases Except.ok.inj hu with rfl
  -- Something is left behind the slashes, or there would be no server to read.
  have hne : s.dropWhile isSlash ≠ [] := by
    intro hnil
    have hslashes : (List.replicate k '/').dropWhile isSlash = [] := by
      refine List.dropWhile_eq_nil_iff.mpr fun c hc => ?_
      rw [List.eq_of_mem_replicate hc]
      rfl
    have hnothing : (s ++ List.replicate k '/').dropWhile isSlash = [] := by
      rw [List.dropWhile_append, hnil, List.isEmpty_nil, if_pos rfl, hslashes]
    have hfails : readAuthority scheme [] = .ok a := by
      rw [← hnothing]
      exact ha
    rw [readAuthority_eq scheme hspecial] at hfails
    exact absurd ((readServer_nil scheme hspecial _ _).symm.trans hfails) nofun
  have hread : readAuthority scheme (s.dropWhile isSlash ++ List.replicate k '/') = .ok a := by
    rw [← hdrop _ hne]
    exact ha
  -- The authority ends in front of the first slash, whatever stands behind it.
  rcases readAuthority_append scheme hspecial _ _ (slashed_replicate k) a hread with ⟨hrest, hother⟩
  refine ⟨s.dropWhile isSlash, a, fun c hc => (List.dropWhile_suffix isSlash).mem hc, ?_,
    fun other hslashed => ?_⟩
  · rw [← hrest]
  · refine (bind_eq_ok _ _ _).mpr ⟨_, ?_, rfl⟩
    have hserver := hother other hslashed
    rw [← hdrop other hne] at hserver
    exact hserver

theorem mem_of_mem_core (s : List Char) (c : Char) (h : c ∈ core s) : c ∈ s :=
  (List.dropWhile_suffix isEdge).mem (List.mem_filter.mp h).1

/-- The URL of a text with slashes behind it, and of the text with a slash and
    more behind it, are read from the same text in front of the path. -/
theorem parse_append (base : List Char) (k : Nat) (u : Url)
    (hsolid : ∃ c ∈ base.getLast?, isEdge c = false)
    (hu : parse (base ++ List.replicate k '/') = .ok u) (hspecial : u.scheme.isSpecial = true) :
    ∃ (back : List Char) (a : Authority), (∀ c ∈ back, c ∈ base) ∧
      (∀ c ∈ back.head?, isEnd c = true) ∧
      u = ofAuthority u.scheme { a with rest := back ++ List.replicate k '/' } ∧
      ∀ ext, (∀ c ∈ ext.getLast?, isEdge c = false) → parse (base ++ '/' :: ext) =
        .ok (ofAuthority u.scheme { a with rest := back ++ '/' :: ext.filter isKept }) := by
  have hslash : ∀ c ∈ List.replicate k '/', c = '/' := fun c hc => List.eq_of_mem_replicate hc
  have hkept : (List.replicate k '/').filter isKept = List.replicate k '/' :=
    List.filter_eq_self.mpr fun c hc => (hslash c hc) ▸ rfl
  have hclean := clean_append base (List.replicate k '/') hsolid fun c hc =>
    (hslash c (List.mem_of_getLast? hc)) ▸ rfl
  rw [hkept] at hclean
  -- The scheme and the server are read off the base alone.
  rcases parseSpecial_of_parse _ u hu hspecial with ⟨rest, hread, hu⟩
  rw [hclean] at hread
  rcases Scheme.read?_append _ _ (slashed_replicate k) _ rest hread with
    ⟨behind, hbehind, rfl, hscheme⟩
  rcases parseSpecial_append u.scheme hspecial behind k u hu with
    ⟨server, a, hserver, hsame, hother⟩
  refine ⟨(cut isEnd server).2, a, fun c hc => ?_, head?_cut isEnd server, hsame,
    fun ext hext => ?_⟩
  · have hmem := hserver c (mem_of_mem_cut isEnd server c (Or.inr hc))
    exact mem_of_mem_core base c (hbehind c hmem)
  · -- So they stay the same in front of another end, whose edges are not trimmed.
    have hlast : ∀ c ∈ ('/' :: ext).getLast?, isEdge c = false := by
      cases ext with
      | nil => exact fun c hc => (Option.some.inj hc) ▸ rfl
      | cons d ext => exact hext
    have hkept : ('/' :: ext).filter isKept = '/' :: ext.filter isKept := rfl
    have hclean := clean_append base ('/' :: ext) hsolid hlast
    rw [hkept] at hclean
    have hread := hscheme _ (slashed_cons (ext.filter isKept))
    rw [← hclean] at hread
    rw [parse_of_read _ _ _ hspecial hread, hother _ (slashed_cons _)]

/-- A URL with a slash and more behind it has the server of the URL, even if the
    slash belongs to a query or a fragment. -/
theorem parse_server (base : List Char) (k : Nat) (u : Url)
    (hsolid : ∃ c ∈ base.getLast?, isEdge c = false)
    (hu : parse (base ++ List.replicate k '/') = .ok u) (hspecial : u.scheme.isSpecial = true)
    (ext : List Char) (hext : ∀ c ∈ ext.getLast?, isEdge c = false) :
    ∃ path query fragment, parse (base ++ '/' :: ext) =
      .ok { u with path := path, query := query, fragment := fragment } := by
  rcases parse_append base k u hsolid hu hspecial with ⟨back, a, _, _, hsame, hother⟩
  have hfields := ofAuthority_eq u.scheme hspecial { a with rest := back ++ List.replicate k '/' }
  rw [← hsame] at hfields
  rw [hother ext hext, ofAuthority_eq u.scheme hspecial, hfields]
  exact ⟨_, _, _, rfl⟩

/-- A URL without a query and a fragment, and the URL with a slash and more
    behind it: its segments come behind those that both have in place. -/
theorem parse_extend (base : List Char) (k : Nat) (u : Url)
    (hsolid : ∃ c ∈ base.getLast?, isEdge c = false) (hmarks : ∀ c ∈ base, isMark c = false)
    (hu : parse (base ++ List.replicate k '/') = .ok u) (hspecial : u.scheme.isSpecial = true) :
    ∃ root, (∃ j, u.path = .segments (root ++ List.replicate j [])) ∧
      ∀ ext, (∀ c ∈ ext.getLast?, isEdge c = false) → parse (base ++ '/' :: ext) =
        .ok { u with
          path := .segments (Path.place root
            (Text.split isSlash (cut isMark (ext.filter isKept)).1))
          query := (tail true (cut isMark (ext.filter isKept)).2).1
          fragment := (tail true (cut isMark (ext.filter isKept)).2).2 } := by
  rcases parse_append base k u hsolid hu hspecial with ⟨back, a, hmem, hend, hsame, hother⟩
  have hback : ∀ c ∈ back, isMark c = false := fun c hc => hmarks c (hmem c hc)
  -- Without marks in the base, only a slash can end the authority.
  have hhead : ∀ c ∈ back.head?, isSlash c = true := by
    intro c hc
    have hend := hend c hc
    have hmark := hback c (List.mem_of_mem_head? hc)
    simp only [isEnd, isMark, isSlash, Bool.or_eq_true, Bool.or_eq_false_iff, decide_eq_true_eq,
      decide_eq_false_iff_not] at hend hmark ⊢
    rcases hend with ((hend | hend) | hend) | hend
    · exact Or.inl hend
    · exact absurd hend hmark.1
    · exact absurd hend hmark.2
    · exact Or.inr hend
  refine ⟨(parts back).foldl Path.settle [], ?_, fun ext hext => ?_⟩
  · rcases readPath_slashes _ hback hhead k with ⟨j, hj⟩
    refine ⟨j, ?_⟩
    rw [hsame, ofAuthority_eq u.scheme hspecial, hj]
  · -- The segments of the base are placed first, then those behind it.
    have hroot := Path.place_append [] (parts back)
      (Text.split isSlash (cut isMark (ext.filter isKept)).1) (Text.split_ne_nil _ _)
    have hfields := ofAuthority_eq u.scheme hspecial { a with rest := back ++ List.replicate k '/' }
    rw [← hsame] at hfields
    rw [hother ext hext, ofAuthority_eq u.scheme hspecial, readPath_slash _ hback hhead, hroot,
      hfields]

end Url

end StreamRoster
