import Mathlib.Data.Bool.AllAny
import StreamRoster.Proofs.Archive.Address
import StreamRoster.Proofs.Http.PercentText
import StreamRoster.Proofs.Url.Endpoints

/-!
# Instances Named in Addresses

When the path of a request says which instance is meant.

The path names an instance if it ends with the segments of the list, and the one
for the instance resolves to its name (`Names`). The name is put into the address
as it is, so that is not true of each name: a slash makes two segments of it, a
mark ends the path, a line break is dropped, dots take away a segment, and an
escape is resolved to something else. Nothing else can go wrong (`IsSegment`):
other characters are escaped in the path, and resolving the escapes gives the
name back.

That a name is a segment is also necessary. The segment that resolves to the name
was made of a part of the name, since neither dropping characters nor resolving
escapes makes a text longer. So that part is the whole name.

## Main definitions

* `Archive.IsSegment`: A name that is one segment of a path.
* `Archive.Names`: A URL that names an instance.

## Theorems

* `Text.eq_of_sublist`: What has as many bytes as the text is the text.
* `Archive.place_listPath`: The segments of the list in place.
* `Archive.eq_of_part`: A part that resolves to the name is the name.
* `Archive.names_iff`: The names that are named by the address.
* `Archive.request_of_config`: The request of a valid configuration.
-/

namespace StreamRoster

/-- What is left of a text without some of its characters has fewer bytes, by
    induction on what is left out. -/
theorem Text.eq_of_sublist (s t : List Char) (h : s.Sublist t) :
    (utf8 s).length ≤ (utf8 t).length ∧ ((utf8 t).length ≤ (utf8 s).length → s = t) := by
  induction h with
  | slnil => exact ⟨Nat.le_refl _, fun _ => rfl⟩
  | cons c h ih =>
      have hpos := Char.utf8Size_pos c
      simp only [utf8, List.flatMap_cons, List.length_append, String.length_utf8EncodeChar] at ih ⊢
      exact ⟨by omega, fun hle => absurd hle (by omega)⟩
  | cons_cons c h ih =>
      simp only [utf8, List.flatMap_cons, List.length_append] at ih ⊢
      exact ⟨Nat.add_le_add_left ih.1 _, fun hle =>
        congrArg (c :: ·) (ih.2 (Nat.le_of_add_le_add_left hle))⟩

namespace Archive

/-! ### The segments of the list -/

/-- A name that is one segment of a path: without slashes, marks and line breaks,
    not dots, and without escapes. -/
structure IsSegment (name : List Char) : Prop where
  plain : ∀ c ∈ name, Url.isSlash c = false ∧ Url.isMark c = false ∧ Url.isKept c = true
  dots : Url.Path.plainDots name ≠ ['.'] ∧ Url.Path.plainDots name ≠ ['.', '.']
  escapes : Percent.decode (Text.utf8 name) = Text.utf8 name

/-- A URL that names an instance: behind the segments of the root stand those of
    the list, where one resolves to the name. -/
structure Names (root : List (List Char)) (name : List Char) (u : Url) : Prop where
  path : ∃ segment, '/' ∉ segment ∧ Percent.decode (Text.utf8 segment) = Text.utf8 name ∧
    u.path = .segments (root ++ ["api".toList, "archive".toList, segment, "streams".toList])
  query : u.query = none
  fragment : u.fragment = none

theorem listPath_eq (name : List Char) :
    listPath name =
      "api".toList ++ '/' :: ("archive".toList ++ '/' :: (name ++ '/' :: "streams".toList)) := by
  have hfront : "api/archive/".toList = "api".toList ++ '/' :: ("archive".toList ++ ['/']) := by
    decide +kernel
  have hend : "/streams".toList = '/' :: "streams".toList := by decide +kernel
  unfold listPath
  simp only [hfront, hend, List.append_assoc, List.cons_append, List.nil_append]

theorem filter_listPath (name : List Char) :
    (listPath name).filter Url.isKept = listPath (name.filter Url.isKept) := by
  have hfront : "api/archive/".toList.filter Url.isKept = "api/archive/".toList := by
    decide +kernel
  have hend : "/streams".toList.filter Url.isKept = "/streams".toList := by decide +kernel
  unfold listPath
  rw [List.filter_append, List.filter_append, hfront, hend]

theorem not_mark_listPath (name : List Char) :
    (∀ c ∈ listPath name, Url.isMark c = false) ↔ ∀ c ∈ name, Url.isMark c = false := by
  have hfront : ∀ c ∈ "api/archive/".toList, Url.isMark c = false := by
    rw [← List.all_iff_forall_prop]
    decide +kernel
  have hend : ∀ c ∈ "/streams".toList, Url.isMark c = false := by
    rw [← List.all_iff_forall_prop]
    decide +kernel
  unfold listPath
  simp only [List.forall_mem_append]
  exact ⟨fun h => h.1.2, fun h => ⟨⟨hfront, h⟩, hend⟩⟩

/-- The words of the list are put in place as they are. -/
theorem plain_words (word : List Char)
    (h : word ∈ ["api".toList, "archive".toList, "streams".toList]) :
    (∀ c ∈ word, Url.isSlash c = false) ∧ Url.Path.plainDots word ≠ ['.'] ∧
      Url.Path.plainDots word ≠ ['.', '.'] ∧ Percent.encode Url.isPathEscaped word = word := by
  rw [← List.all_iff_forall_prop]
  simp only [List.mem_cons, List.not_mem_nil, or_false] at h
  rcases h with rfl | rfl | rfl
  all_goals decide +kernel

/-- The parts of the name are settled behind the front of the list, and the end of
    the list stands behind them. -/
theorem place_listPath (root : List (List Char)) (name : List Char) :
    Url.Path.place root (Text.split Url.isSlash (listPath name)) =
      (Text.split Url.isSlash name).foldl Url.Path.settle
        (root ++ ["api".toList, "archive".toList]) ++ ["streams".toList] := by
  have hslash : Url.isSlash '/' = true := rfl
  have hapi := plain_words "api".toList List.mem_cons_self
  have harchive := plain_words "archive".toList (List.mem_cons_of_mem _ List.mem_cons_self)
  have hstreams := plain_words "streams".toList
    (List.mem_cons_of_mem _ (List.mem_cons_of_mem _ List.mem_cons_self))
  rw [listPath_eq, Text.split_append _ _ _ _ hslash, Text.split_append _ _ _ _ hslash,
    Text.split_append _ _ _ _ hslash, Text.split_of_none _ _ hapi.1,
    Text.split_of_none _ _ harchive.1, Text.split_of_none _ _ hstreams.1]
  simp only [List.cons_append, List.nil_append]
  rw [Url.Path.place_plain root _ _ hapi.2.1 hapi.2.2.1,
    Url.Path.place_plain _ _ _ harchive.2.1 harchive.2.2.1,
    Url.Path.place_append _ _ _ (List.cons_ne_nil _ _),
    Url.Path.place_plain _ _ _ hstreams.2.1 hstreams.2.2.1, Url.Path.place, hapi.2.2.2,
    harchive.2.2.2, hstreams.2.2.2]
  simp only [List.append_assoc, List.cons_append, List.nil_append]

/-! ### Names -/

/-- The escaped name is one segment, and its escapes resolve to the name. -/
theorem escaped_segment (name : List Char) (h : IsSegment name) :
    '/' ∉ Percent.encode Url.isPathEscaped name ∧
      Percent.decode (Text.utf8 (Percent.encode Url.isPathEscaped name)) = Text.utf8 name := by
  refine ⟨fun hslash => ?_, (Percent.decode_encode _ Percent.sparing_path name).trans h.escapes⟩
  have hdigits : ∀ n < 16, '/' ≠ Percent.hexDigit n := by decide
  rcases Percent.mem_encode_cases _ name '/' hslash with ⟨hmem, _⟩ | hsign | ⟨n, hn, hdigit⟩
  · exact absurd (h.plain '/' hmem).1 nofun
  · exact absurd hsign (by decide)
  · exact hdigits n hn hdigit

/-- A part that resolves to the name is the name: it has all its bytes, since
    resolving escapes does not make it longer. -/
theorem eq_of_part (name part : List Char)
    (hpart : part ∈ Text.split Url.isSlash (name.filter Url.isKept))
    (hdecode : Percent.decode (Text.utf8 part) = Text.utf8 name) :
    part = name ∧ name.filter Url.isKept = name ∧ ∀ c ∈ name, Url.isSlash c = false := by
  rcases Text.mem_split Url.isSlash _ part hpart with ⟨hsub, hplain⟩
  have hlength : (Text.utf8 name).length ≤ (Text.utf8 part).length := by
    rw [← hdecode]
    exact Percent.length_decode_le _
  have hsame : part = name :=
    (Text.eq_of_sublist part name (hsub.trans List.filter_sublist)).2 hlength
  rcases hsame with rfl
  exact ⟨rfl, List.filter_sublist.eq_of_length_le hsub.length_le, hplain⟩

section
variable (root : List (List Char)) (name : List Char) (u : Url)
  (hpath : u.path =
    .segments (Url.Path.place root (Text.split Url.isSlash (listParts name).1)))
  (hquery : u.query = (Url.tail true (listParts name).2).1)
  (hfragment : u.fragment = (Url.tail true (listParts name).2).2)

include hpath hquery hfragment

theorem names_of_segment (h : IsSegment name) : Names root name u := by
  have hkept : name.filter Url.isKept = name :=
    List.filter_eq_self.mpr fun c hc => (h.plain c hc).2.2
  have hmarks := (not_mark_listPath name).mpr fun c hc => (h.plain c hc).2.1
  have hparts : listParts name = (listPath name, []) := by
    have hcut := Url.cut_of_none Url.isMark (listPath name) [] hmarks
    rw [List.append_nil] at hcut
    rw [listParts, filter_listPath, hkept]
    exact hcut.trans (congrArg (·, []) (List.append_nil _))
  rw [hparts] at hpath hquery hfragment
  refine ⟨⟨_, (escaped_segment name h).1, (escaped_segment name h).2, ?_⟩, hquery, hfragment⟩
  rw [hpath, place_listPath, Text.split_of_none _ name fun c hc => (h.plain c hc).1,
    List.foldl_cons, List.foldl_nil, Url.Path.settle, if_neg h.dots.2, if_neg h.dots.1]
  simp only [List.append_assoc, List.cons_append, List.nil_append]

/-- An address that names an instance is not divided in the name. -/
theorem segment_of_names (h : Names root name u) : IsSegment name := by
  rcases h with ⟨⟨segment, hslash, hdecode, hsegments⟩, hnoquery, hnofragment⟩
  -- There are no marks, so the path is that of the whole list.
  have hback : (listParts name).2 = [] :=
    Url.eq_nil_of_tail true _ (Url.head?_cut Url.isMark _) (hquery.symm.trans hnoquery)
      (hfragment.symm.trans hnofragment)
  rcases Url.of_cut_eq_nil Url.isMark _ hback with ⟨hfront, hmarks⟩
  have hfront : (listParts name).1 = listPath (name.filter Url.isKept) :=
    hfront.trans (filter_listPath name)
  rw [filter_listPath] at hmarks
  have hmarks := (not_mark_listPath _).mp hmarks
  rw [hsegments, hfront, place_listPath] at hpath
  have hsettled : (Text.split Url.isSlash (name.filter Url.isKept)).foldl Url.Path.settle
      (root ++ ["api".toList, "archive".toList]) =
      root ++ ["api".toList, "archive".toList] ++ [segment] := by
    refine (List.append_left_inj ["streams".toList]).mp ?_
    rw [← Url.Path.segments.inj hpath]
    simp only [List.append_assoc, List.cons_append, List.nil_append]
  rcases Url.Path.exists_of_settled _ _ segment hsettled with ⟨part, hpart, hencode⟩
  rw [hencode, Percent.decode_encode _ Percent.sparing_path] at hdecode
  rcases eq_of_part name part hpart hdecode with ⟨rfl, hkept, hplain⟩
  rw [hkept] at hsettled hmarks
  refine ⟨fun c hc => ⟨hplain c hc, hmarks c hc, List.filter_eq_self.mp hkept c hc⟩, ?_, hdecode⟩
  -- Dots would not leave a segment.
  rw [← not_or]
  intro hdots
  have hle := Url.Path.length_settle_dots (root ++ ["api".toList, "archive".toList]) part hdots
  rw [Text.split_of_none _ part hplain, List.foldl_cons, List.foldl_nil] at hsettled
  rw [hsettled, List.length_append, List.length_singleton] at hle
  omega

/-- An address names an instance just if its name is a segment. -/
theorem names_iff : Names root name u ↔ IsSegment name :=
  ⟨segment_of_names root name u hpath hquery hfragment,
    names_of_segment root name u hpath hquery hfragment⟩

end

/-! ### The request of a configuration -/

theorem trimmed_segments (root : List (List Char)) (hroot : root.getLast? ≠ some []) (k : Nat) :
    Text.dropEndWhile List.isEmpty (root ++ List.replicate k []) = root := by
  have hempty : ∀ segment ∈ List.replicate k ([] : List Char), segment.isEmpty = true :=
    fun segment hmem => by
      rw [List.eq_of_mem_replicate hmem]
      rfl
  have hlast : ∀ segment ∈ root.reverse.head?, segment.isEmpty = false := by
    intro segment hmem
    rw [List.head?_reverse] at hmem
    rw [List.isEmpty_eq_false_iff]
    rintro rfl
    exact hroot hmem
  rw [Text.dropEndWhile, List.reverse_append, List.reverse_replicate,
    List.dropWhile_append_of_pos hempty, Url.dropWhile_of_head _ _ hlast, List.reverse_reverse]

/-- The base URL of a valid configuration names a server that can be asked. -/
theorem base_of_config (c : Config) (hc : c.validate = .ok ()) :
    ∃ base, Url.validate .requests c.archiveUrl.toList = .ok base ∧
      Url.parse c.archiveUrl.toList = .ok base ∧ base.scheme.isSpecial = true ∧
      base.hasHost = true := by
  rcases c.validate_eq_ok_iff.mp hc with ⟨_, base, _, hvalid, _⟩
  rcases (Url.validate_eq_ok_iff .requests _ base).mp hvalid with ⟨_, hparse, hscheme⟩
  exact ⟨base, hvalid, hparse, Url.Purpose.isSpecial_of_allows _ _ hscheme,
    (Url.hasHost_iff base).mpr (Url.exists_host .requests _ base hparse hscheme)⟩

/-- The request of a valid configuration. Slashes at the end of the base do not
    change it, and its server is that of the base. If the base can be extended,
    then there is a request, and it names the instance just if the name of the
    instance is a segment. -/
theorem request_of_config (c : Config) (hc : c.validate = .ok ()) :
    (∀ k, request ⟨String.ofList (c.archiveUrl.toList ++ List.replicate k '/'), c.inst, c.key⟩ =
      request ⟨c.archiveUrl, c.inst, c.key⟩) ∧
    ∃ base, Url.validate .requests c.archiveUrl.toList = .ok base ∧
      (Solid c.archiveUrl → ∀ r, request ⟨c.archiveUrl, c.inst, c.key⟩ = .ok r →
        r.url.scheme = base.scheme ∧ r.url.host = base.host ∧ r.url.port = base.port) ∧
      (Appendable c.archiveUrl → ∃ segments, base.path = .segments segments ∧
        ((∀ key ∈ c.key, (Authorization.bearer? key).isSome = true) →
          ∃ r, request ⟨c.archiveUrl, c.inst, c.key⟩ = .ok r) ∧
        ∀ r, request ⟨c.archiveUrl, c.inst, c.key⟩ = .ok r →
          (Names (Text.dropEndWhile List.isEmpty segments) c.inst.toList r.url ↔
            IsSegment c.inst.toList)) := by
  rcases base_of_config c hc with ⟨base, hvalid, hparse, hspecial, hhost⟩
  refine ⟨request_slashes ⟨c.archiveUrl, c.inst, c.key⟩, base, hvalid,
    fun hsolid => server_of_request _ base hsolid hparse hspecial, fun happend => ?_⟩
  rcases parse_address c.archiveUrl happend base hparse hspecial with
    ⟨root, ⟨j, hpath⟩, hroot, haddress⟩
  refine ⟨root ++ List.replicate j [], hpath, fun hkey => ?_, fun r hr => ?_⟩
  · exact exists_request _ _ (haddress c.inst c.key) hhost hkey
  · rw [trimmed_segments root hroot j, url_of_request _ _ (haddress c.inst c.key) r hr]
    -- The user that is taken out of the address has no part in its path.
    rcases takeUser_eq { base with
      path := .segments (Url.Path.place root
        (Text.split Url.isSlash (listParts c.inst.toList).1))
      query := (Url.tail true (listParts c.inst.toList).2).1
      fragment := (Url.tail true (listParts c.inst.toList).2).2 } with ⟨user, password, hsame⟩
    rw [hsame]
    exact names_iff root c.inst.toList _ rfl rfl rfl

/-- A base with a path and slashes at its end, and a name with a blank in it. -/
theorem request_of_blank_name :
    ∃ c : Config, c.archiveUrl = "http://h:90/a//" ∧ c.inst = "x y" ∧ c.validate = .ok () ∧
      Appendable c.archiveUrl ∧ IsSegment c.inst.toList ∧
      ∃ r, request ⟨c.archiveUrl, c.inst, c.key⟩ = .ok r ∧ r.url.port = some 90 ∧
        Names [['a']] c.inst.toList r.url := by
  have hvalid : { Config.default with archiveUrl := "http://h:90/a//", inst := "x y" }.validate =
      .ok () := by decide +kernel
  have happend : Appendable "http://h:90/a//" := by
    refine ⟨?_, ⟨'a', by decide +kernel, by decide⟩, fun u front hu hpath => ?_⟩
    · rw [← List.all_iff_forall_prop]
      decide +kernel
    have hread : (Url.parse (trimSlashes "http://h:90/a//".toList ++ ['/'])).toOption.map
        Url.path = some (.segments [['a'], []]) := by decide +kernel
    rw [hu] at hread
    have hsame : front ++ [[], []] = [] ++ [['a'], []] :=
      Url.Path.segments.inj (hpath.symm.trans (Option.some.inj hread))
    exact absurd (List.append_inj_right' hsame rfl) nofun
  have hname : IsSegment "x y".toList := by
    refine ⟨?_, by decide +kernel, by decide +kernel⟩
    rw [← List.all_iff_forall_prop]
    decide +kernel
  rcases request_of_config _ hvalid with ⟨_, base, hbase, hserver, hextend⟩
  rcases hextend happend with ⟨segments, hsegments, hexists, hnames⟩
  rcases hexists nofun with ⟨r, hr⟩
  have hparts : (Url.validate .requests "http://h:90/a//".toList).toOption.map
      (fun u => (u.path, u.port)) = some (.segments [['a'], [], []], some 90) := by decide +kernel
  rw [hbase] at hparts
  rcases Prod.mk.inj (Option.some.inj hparts) with ⟨hpath, hport⟩
  rcases Url.Path.segments.inj (hsegments.symm.trans hpath) with rfl
  exact ⟨_, rfl, rfl, hvalid, happend, hname, r, hr,
    (hserver happend.solid r hr).2.2.trans hport, (hnames r hr).mpr hname⟩

/-- A name with a mark in it ends the path, and what follows it becomes the
    query. -/
theorem request_of_divided_name :
    ∃ c : Config, c.archiveUrl = "http://localhost:8090" ∧ c.inst = "a?b" ∧ c.validate = .ok () ∧
      ∃ r, request ⟨c.archiveUrl, c.inst, c.key⟩ = .ok r ∧
        r.url.path = .segments ["api".toList, "archive".toList, ['a']] ∧
        r.url.query = some "b/streams".toList ∧ ∀ root, ¬Names root c.inst.toList r.url := by
  refine ⟨{ Config.default with inst := "a?b" }, rfl, rfl, by decide +kernel, ?_⟩
  have hread : (request ⟨"http://localhost:8090", "a?b", none⟩).toOption.map
      (fun r => (r.url.path, r.url.query)) =
      some (.segments ["api".toList, "archive".toList, ['a']], some "b/streams".toList) := by
    decide +kernel
  cases hr : request ⟨"http://localhost:8090", "a?b", none⟩ with
  | error fault =>
      rw [hr] at hread
      cases hread
  | ok r =>
      rw [hr] at hread
      rcases Prod.mk.inj (Option.some.inj hread) with ⟨hpath, hquery⟩
      exact ⟨r, hr, hpath, hquery, fun root hnames =>
        absurd (hquery.symm.trans hnames.query) nofun⟩

end Archive

end StreamRoster
