import StreamRoster.Config.Load
import StreamRoster.Feed.Source
import StreamRoster.Proofs.Url.Extension

/-!
# Endpoints and Their Hosts

The URL of a feed is checked twice: when a configuration is loaded, and when a
source is made of it. The first check limits the length and asks for a host, the
second does neither.

The limit is a difference between them, the host is not. Under a special scheme
the text in front of the path is never empty, and what is read of it is an
address or a name that is not empty either, since a name that is mapped to
nothing is refused (`Host.ne_empty_of_read`). All schemes of endpoints are
special. So asking for a host is asking for what is there, and within the limit
both checks give the same URL and have the same reason to refuse one
(`Url.validate_eq_new`).

## Main definitions

* `Source.UrlFault.rejection`: The same fault, found by the other check.

## Theorems

* `Host.ne_empty_of_read`: The host of a special URL has a name.
* `Url.exists_host`: A URL of an endpoint names a host.
* `Url.validate_eq`: The check of an endpoint without the question for a host.
* `Config.validate_eq_ok_iff`: What is checked of a configuration.
* `Url.validate_eq_new`: The two checks of the URL of a feed.
* `Url.exists_ofConfig`: A valid configuration has a source.
* `Url.feed_checks_agree`: What they have in common.
-/

namespace StreamRoster

open Json (bind_eq_ok)

/-! ### Hosts -/

theorem Ipv4.text_ne_nil (a : Ipv4) : a.text ≠ [] := by
  rw [text, bytes]
  exact List.append_ne_nil_of_right_ne_nil _ (List.cons_ne_nil _ _)

namespace Host

/-- Only the host without a name has no text. -/
theorem text_ne_nil_iff (host : Host) : host.text ≠ [] ↔ host ≠ Host.empty := by
  cases host with
  | name text => exact not_congr ⟨congrArg Host.name, Host.name.inj⟩
  | ipv4 a => exact iff_of_true a.text_ne_nil nofun
  | ipv6 a => exact iff_of_true (List.cons_ne_nil _ _) nofun

theorem ne_empty_of_readBrackets (s : List Char) (host : Host) (h : readBrackets s = .ok host) :
    host ≠ Host.empty := by
  rw [readBrackets] at h
  split_ifs at h
  split at h
  · rcases Except.ok.inj h with rfl
    nofun
  · cases h

theorem ne_empty_of_ofDomain (domain : List Char) (host : Host) (h : ofDomain domain = .ok host) :
    host ≠ Host.empty := by
  -- A domain that was mapped to nothing is refused before it becomes a name.
  rw [ofDomain] at h
  split_ifs at h with hdomain
  · split at h
    · rcases Except.ok.inj h with rfl
      nofun
    · cases h
  · rcases Except.ok.inj h with rfl
    intro hempty
    exact hdomain (List.isEmpty_iff.mpr (Host.name.inj hempty))

/-- The host of a special URL is an address or has a name. -/
theorem ne_empty_of_read (s : List Char) (host : Host) (h : read s = .ok host) :
    host ≠ Host.empty := by
  rw [read.eq_def] at h
  split at h
  · exact ne_empty_of_readBrackets _ host h
  · split at h
    · exact ne_empty_of_ofDomain _ host h
    · cases h

end Host

namespace Url

theorem hasHost_iff (u : Url) :
    u.hasHost = true ↔ ∃ host, u.host = some host ∧ host.text ≠ [] := by
  rw [hasHost]
  cases u.host with
  | none => exact iff_of_false nofun nofun
  | some host =>
      simp only [Option.some.injEq, exists_eq_left', decide_not, Bool.not_eq_true',
        decide_eq_false_iff_not, Host.text_ne_nil_iff, ne_eq]

theorem ne_empty_of_readAuthority (scheme : Scheme) (hspecial : scheme.isSpecial = true)
    (s : List Char) (a : Authority) (h : readAuthority scheme s = .ok a) :
    a.host ≠ Host.empty := by
  rw [readAuthority_eq scheme hspecial, readServer] at h
  rcases (bind_eq_ok _ _ _).mp h with ⟨host, hhost, h⟩
  dsimp only at h
  split_ifs at h
  · cases h
  · -- Under a special scheme the host is read as an address or a domain.
    rcases (bind_eq_ok _ _ _).mp h with ⟨port, _, h⟩
    rcases Except.ok.inj h with rfl
    rw [readHost, if_pos hspecial] at hhost
    split_ifs at hhost
    exact Host.ne_empty_of_read _ host hhost

theorem hasHost_of_parseSpecial (scheme : Scheme) (hspecial : scheme.isSpecial = true)
    (s : List Char) (u : Url) (h : parseSpecial scheme s = .ok u) : u.hasHost = true := by
  rcases (bind_eq_ok _ _ _).mp h with ⟨a, ha, hu⟩
  rcases Except.ok.inj hu with rfl
  exact decide_eq_true (ne_empty_of_readAuthority scheme hspecial _ a ha)

/-! ### The check of an endpoint -/

theorem Purpose.isSpecial_of_allows (purpose : Purpose) (scheme : Scheme)
    (h : purpose.allows scheme = true) : scheme.isSpecial = true := by
  rw [allows, Bool.or_eq_true, decide_eq_true_eq, decide_eq_true_eq] at h
  cases purpose with
  | feed => rcases h with rfl | rfl <;> decide
  | requests => rcases h with rfl | rfl <;> decide

/-- A URL with a scheme of an endpoint names a host. -/
theorem exists_host (purpose : Purpose) (s : List Char) (u : Url) (h : parse s = .ok u)
    (hscheme : purpose.allows u.scheme = true) : ∃ host, u.host = some host ∧ host.text ≠ [] := by
  have hspecial := purpose.isSpecial_of_allows u.scheme hscheme
  rcases parseSpecial_of_parse s u h hspecial with ⟨rest, _, hparse⟩
  exact (hasHost_iff u).mp (hasHost_of_parseSpecial u.scheme hspecial rest u hparse)

/-- The check of an endpoint, which need not ask for a host. -/
theorem validate_eq (purpose : Purpose) (s : List Char) :
    validate purpose s =
      if maxLength < (Text.utf8 s).length then .error .tooLong
      else match parse s with
        | .error fault => .error (.unreadable fault)
        | .ok u =>
          if purpose.allows u.scheme then .ok u else .error (.scheme u.scheme purpose) := by
  rw [validate]
  split_ifs with hlong
  · rfl
  cases hparse : parse s with
  | error fault => rfl
  | ok u =>
      dsimp only
      by_cases hscheme : purpose.allows u.scheme = true
      · -- The question for a host has only one answer here.
        have hhost := (hasHost_iff u).mpr (exists_host purpose s u hparse hscheme)
        simp only [hscheme, hhost, Bool.not_true, Bool.false_eq_true, if_false, if_true]
      · simp only [hscheme, Bool.not_false, if_true, Bool.false_eq_true, if_false]

/-- A URL of an endpoint is a readable one that is not too long and has one of
    the schemes. -/
theorem validate_eq_ok_iff (purpose : Purpose) (s : List Char) (u : Url) :
    validate purpose s = .ok u ↔ (Text.utf8 s).length ≤ maxLength ∧ parse s = .ok u ∧
      purpose.allows u.scheme = true := by
  rw [validate_eq, ← Nat.not_lt]
  split_ifs with hlong
  · exact iff_of_false nofun fun h => h.1 hlong
  cases hparse : parse s with
  | error fault => exact iff_of_false nofun fun h => absurd h.2.1 nofun
  | ok v =>
      dsimp only
      rw [Except.ok.injEq v u]
      split_ifs with hscheme
      · refine (Except.ok.injEq v u).to_iff.trans ⟨?_, fun h => h.2.1⟩
        rintro rfl
        exact ⟨hlong, rfl, hscheme⟩
      · refine iff_of_false nofun ?_
        rintro ⟨_, rfl, h⟩
        exact hscheme h

end Url

/-- A valid configuration has two endpoints, an instance and room. -/
theorem Config.validate_eq_ok_iff (c : Config) :
    c.validate = .ok () ↔ ∃ feed base, Url.validate .feed c.serverUrl.toList = .ok feed ∧
      Url.validate .requests c.archiveUrl.toList = .ok base ∧
        (Text.trim c.inst.toList).isEmpty = false ∧ 0 < c.eventRoom := by
  rw [Config.validate]
  cases Url.validate .feed c.serverUrl.toList with
  | error rejection => exact iff_of_false nofun fun ⟨_, _, h, _⟩ => absurd h nofun
  | ok feed =>
      cases Url.validate .requests c.archiveUrl.toList with
      | error rejection => exact iff_of_false nofun fun ⟨_, _, _, h, _⟩ => absurd h nofun
      | ok base =>
          dsimp only
          split_ifs with hinst hroom
          · exact iff_of_false nofun fun ⟨_, _, _, _, h, _⟩ => Bool.false_ne_true (h.symm.trans hinst)
          · exact iff_of_false nofun fun ⟨_, _, _, _, _, h⟩ => absurd hroom (Nat.ne_of_gt h)
          · exact iff_of_true rfl
              ⟨feed, base, rfl, rfl, Bool.eq_false_iff.mpr hinst, Nat.pos_of_ne_zero hroom⟩

/-! ### The two checks of a feed -/

namespace Source

/-- The reason for which the check of an endpoint refuses the URL of a fault. -/
def UrlFault.rejection : UrlFault → Url.Rejection
  | .unreadable _ fault => .unreadable fault
  | .scheme _ found => .scheme found .feed

/-- The schemes of a source are those of a feed. -/
theorem new_eq (text inst : String) :
    new text inst = match Url.parse text.toList with
      | .error fault => .error (.unreadable text fault)
      | .ok url =>
        if Url.Purpose.feed.allows url.scheme then
          .ok { url, inst, key := none, room := defaultRoom }
        else .error (.scheme text url.scheme) :=
  rfl

end Source

namespace Url

/-- The check of the URL of a feed is the one that a source makes, with a limit
    in front. -/
theorem validate_eq_new (text inst : String) :
    validate .feed text.toList =
      if maxLength < (Text.utf8 text.toList).length then .error .tooLong
      else match Source.new text inst with
        | .error fault => .error fault.rejection
        | .ok source => .ok source.url := by
  rw [validate_eq, Source.new_eq]
  split_ifs with hlong
  · rfl
  cases parse text.toList with
  | error fault => rfl
  | ok u =>
      dsimp only
      split_ifs with hscheme
      · rfl
      · rfl

/-- A text is the URL of a feed just if it is within the limit and a source can be
    made of it. -/
theorem validate_eq_ok_iff_new (text inst : String) (url : Url) :
    validate .feed text.toList = .ok url ↔ (Text.utf8 text.toList).length ≤ maxLength ∧
      ∃ source, Source.new text inst = .ok source ∧ source.url = url := by
  rw [validate_eq_new text inst, ← Nat.not_lt]
  split_ifs with hlong
  · exact iff_of_false nofun fun h => h.1 hlong
  cases Source.new text inst with
  | error fault => exact iff_of_false nofun fun h => absurd h.2.choose_spec.1 nofun
  | ok source =>
      rw [Except.ok.injEq]
      refine ⟨fun h => ⟨hlong, source, rfl, h⟩, ?_⟩
      rintro ⟨_, other, hother, rfl⟩
      rw [Except.ok.inj hother]

/-- A valid configuration has a source, with the room that it says. -/
theorem exists_ofConfig (c : Config) (hc : c.validate = .ok ()) :
    ∃ source, Source.ofConfig c = .ok source ∧
      validate .feed c.serverUrl.toList = .ok source.url ∧ source.room = c.eventRoom := by
  rcases c.validate_eq_ok_iff.mp hc with ⟨feed, _, hfeed, _, _, hroom⟩
  rcases ((validate_eq_ok_iff_new c.serverUrl c.inst feed).mp hfeed).2 with ⟨source, hsource, rfl⟩
  refine ⟨(source.withKey c.key).withRoom c.eventRoom, ?_, hfeed, Nat.max_eq_left hroom⟩
  rw [Source.ofConfig, hsource]
  rfl

/-- The two checks of the URL of a feed agree. A text is the URL of a feed just
    if it is within the limit and a source can be made of it, both with the same
    URL; and a text within the limit is refused by both for one reason. A valid
    configuration has a source. And that an endpoint has no host is never the
    reason, since a URL with one of its schemes names a host. -/
theorem feed_checks_agree :
    (∀ text inst url, validate .feed text.toList = .ok url ↔
      (Text.utf8 text.toList).length ≤ maxLength ∧
        ∃ source, Source.new text inst = .ok source ∧ source.url = url) ∧
    (∀ text inst rejection, (Text.utf8 text.toList).length ≤ maxLength →
      (validate .feed text.toList = .error rejection ↔
        ∃ fault, Source.new text inst = .error fault ∧ fault.rejection = rejection)) ∧
    (∀ c : Config, c.validate = .ok () → ∃ source, Source.ofConfig c = .ok source ∧
      validate .feed c.serverUrl.toList = .ok source.url) ∧
    ∀ purpose s, validate purpose s ≠ .error .noHost ∧
      ∀ u, parse s = .ok u → purpose.allows u.scheme = true →
        ∃ host, u.host = some host ∧ host.text ≠ [] := by
  refine ⟨validate_eq_ok_iff_new, fun text inst rejection hlength => ?_, fun c hc => ?_,
    fun purpose s => ⟨?_, exists_host purpose s⟩⟩
  · rw [validate_eq_new text inst, if_neg (Nat.not_lt.mpr hlength)]
    cases Source.new text inst with
    | error fault =>
        rw [Except.error.injEq]
        refine ⟨fun h => ⟨fault, rfl, h⟩, ?_⟩
        rintro ⟨other, hother, rfl⟩
        rw [Except.error.inj hother]
    | ok source => exact iff_of_false nofun fun h => absurd h.choose_spec.1 nofun
  · rcases exists_ofConfig c hc with ⟨source, hsource, hfeed, _⟩
    exact ⟨source, hsource, hfeed⟩
  -- Whichever check fails, its verdict is another one.
  · rw [validate_eq]
    split_ifs
    · nofun
    split
    · nofun
    split_ifs
    · nofun
    · nofun

/-- A secured feed with a user, an address in brackets and a backslash in front of
    its path. -/
theorem feed_checks_agree_of_bracketed_address :
    ∃ c : Config, c.serverUrl = "wss://u:p@[::1]:81\\api" ∧ c.validate = .ok () ∧
      ∃ source, Source.ofConfig c = .ok source ∧
        validate .feed c.serverUrl.toList = .ok source.url ∧ source.url.port = some 81 := by
  have hvalid : { Config.default with serverUrl := "wss://u:p@[::1]:81\\api" }.validate =
      .ok () := by decide +kernel
  rcases feed_checks_agree.2.2.1 _ hvalid with ⟨source, hsource, hfeed⟩
  have hport : (validate .feed "wss://u:p@[::1]:81\\api".toList).toOption.map Url.port =
      some (some 81) := by decide +kernel
  rw [hfeed] at hport
  exact ⟨_, rfl, hvalid, source, hsource, hfeed, Option.some.inj hport⟩

end Url

end StreamRoster
