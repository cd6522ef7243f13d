import StreamRoster.Proofs.Roster.Moves

/-!
# The Subscription Is Released Once

A task releases its subscription once, whatever made it leave and however
often it is told to stop.

There are four ways out: a stop before the subscription was there, a refused
subscription, the end of the feed, and a stop or a drop of the handle while
the task was following. They race with each other, and a stop may come when
the task has long left by another way. What makes the count come out right is
that it is tied to the phase and to nothing else: `Phase.releases` is zero in
front of the release and one behind it, and no move leads back. `Accounted`
says so, and what the moves made so far have to do with the phase and the
handle.

That the release happens once is half of what a source needs. `silent_run` is
the other half: behind it no event reaches the roster, so a source may forget
its subscription there and then. And `exists_finish` says that the way out is
always open to a task that was told to stop, so no subscription is leaked for
want of a move.

## Main definitions

* `Accounted`: How releases, phase and handle go with the moves made.

## Theorems

* `releases_of_step`: A move keeps the count of releases tied to the phase.
* `finished_of_step`: A finished task stays finished.
* `move_of_finished`: A task finishes by a release that completes.
* `accounted_run`: Every run keeps the account.
* `silent_run`: Behind the release nothing reaches the roster.
* `exists_finish`: A task that was told to stop can finish.
* `release_of_run`: The release over every run of a session.
-/

namespace StreamRoster

namespace Roster

namespace Session

/-- A move keeps the count of releases tied to the phase. -/
theorem releases_of_step (s s' : Session) (m : Move) (hstep : s.step m = some s')
    (h : s.releases = s.phase.releases) : s'.releases = s'.phase.releases := by
  rcases phase_of_step s s' m hstep with ⟨hphase, hcount⟩ | ⟨hfrom, hto, hcount⟩ |
    ⟨hfrom, hto, hcount⟩ | ⟨hfrom, hto, hcount, _⟩
  · rw [hcount, hphase, h]
  · rw [hcount, hto, h, hfrom]
    rfl
  · rw [hcount, hto, h, (Phase.releases_eq_zero_iff s.phase).mpr hfrom]
    rfl
  · rw [hcount, hto, h, hfrom]
    rfl

theorem finished_of_step (s s' : Session) (m : Move) (hstep : s.step m = some s')
    (h : s.phase = .finished) : s'.phase = .finished := by
  rcases phase_of_step s s' m hstep with ⟨hphase, _⟩ | ⟨hfrom, _⟩ | ⟨hfrom, _⟩ | ⟨_, hto, _⟩
  · rw [hphase, h]
  · exact absurd (h.symm.trans hfrom) nofun
  · rw [h] at hfrom
    rcases hfrom with hfrom | hfrom <;> exact absurd hfrom nofun
  · exact hto

/-- A task finishes by a release that completes, whether that succeeds or
    fails. -/
theorem move_of_finished (s s' : Session) (m : Move) (hstep : s.step m = some s')
    (h : s'.phase = .finished) : s.phase = .finished ∨ m = .release ∨ m = .failRelease := by
  rcases phase_of_step s s' m hstep with ⟨hphase, _⟩ | ⟨_, hto, _⟩ | ⟨_, hto, _⟩ |
    ⟨_, _, _, hmove⟩
  · exact Or.inl (hphase.symm.trans h)
  · exact absurd (h.symm.trans hto) nofun
  · exact absurd (h.symm.trans hto) nofun
  · exact Or.inr hmove

/-- How the releases, the phase and the handle of a session go with the moves
    that led to it. -/
structure Accounted (moves : List Move) (s : Session) : Prop where
  releases : s.releases = s.phase.releases
  completed : s.phase = .finished → .release ∈ moves ∨ .failRelease ∈ moves
  returned : .returnStop ∈ moves → s.phase = .finished
  held : s.handle = .held → .stop ∉ moves

theorem accounted_start (roster : Roster) (room : Nat) : Accounted [] (start roster room) where
  releases := rfl
  completed h := absurd h nofun
  returned h := absurd h List.not_mem_nil
  held _ := List.not_mem_nil

/-- A move of an extended run was made before or is the last. -/
theorem mem_concat_iff (moves : List Move) (m n : Move) :
    n ∈ moves ++ [m] ↔ n ∈ moves ∨ n = m := by
  rw [List.mem_append, List.mem_singleton]

theorem not_mem_concat (moves : List Move) (m n : Move) (h : n ∉ moves) (hne : m ≠ n) :
    n ∉ moves ++ [m] := by
  intro hmem
  rcases (mem_concat_iff moves m n).mp hmem with hmem | heq
  · exact h hmem
  · exact hne heq.symm

theorem accounted_step (moves : List Move) (m : Move) (s s' : Session)
    (h : Accounted moves s) (hstep : s.step m = some s') : Accounted (moves ++ [m]) s' := by
  refine ⟨releases_of_step s s' m hstep h.releases, fun hfin => ?_, fun hmem => ?_,
    fun hheld => ?_⟩
  · rcases move_of_finished s s' m hstep hfin with hfin | rfl | rfl
    · rcases h.completed hfin with hmem | hmem
      · exact Or.inl (List.mem_append_left [m] hmem)
      · exact Or.inr (List.mem_append_left [m] hmem)
    · exact Or.inl ((mem_concat_iff moves _ _).mpr (Or.inr rfl))
    · exact Or.inr ((mem_concat_iff moves _ _).mpr (Or.inr rfl))
  · rcases (mem_concat_iff moves m .returnStop).mp hmem with hmem | rfl
    · exact finished_of_step s s' m hstep (h.returned hmem)
    · cases leads_of_step s s' .returnStop hstep with
      | returnStop hhandle hphase => exact hphase
  · rcases held_of_step s s' m hstep hheld with ⟨hbefore, hne⟩
    exact not_mem_concat moves m .stop (h.held hbefore) hne

/-- Every run keeps the account. -/
theorem accounted_run (roster : Roster) (room : Nat) (moves : List Move) (s : Session)
    (h : (start roster room).run moves = some s) : Accounted moves s :=
  run_induct Accounted (start roster room) (accounted_start roster room) accounted_step moves s h

/-- Behind the release nothing reaches the roster: no event is taken, and the
    roster with all it has published stays what it is. -/
theorem silent_run (s t : Session) (later : List Move) (hbehind : s.phase.releases = 1)
    (h : s.run later = some t) : .take ∉ later ∧ t.roster = s.roster := by
  have hkept : t.phase.releases = 1 ∧ .take ∉ later ∧ t.roster = s.roster := by
    refine run_induct (fun later t => t.phase.releases = 1 ∧ .take ∉ later ∧
      t.roster = s.roster) s ⟨hbehind, List.not_mem_nil, rfl⟩ ?_ later t h
    intro later m t t' ht hstep
    rcases ht with ⟨hbehind, htake, hroster⟩
    have hmono := releases_mono_of_step t t' m hstep
    have hone := Phase.releases_le_one t'.phase
    refine ⟨by omega, ?_⟩
    rcases feed_of_step t t' m hstep with ⟨_, hfrom, _⟩ | ⟨event, rfl, _, _, hsame⟩ |
      ⟨hne, _, hsame, _⟩
    · -- A take needs a task that follows, which has not released yet.
      rw [hfrom] at hbehind
      exact absurd hbehind Nat.zero_ne_one
    · exact ⟨not_mem_concat later _ _ htake nofun, hsame.trans hroster⟩
    · exact ⟨not_mem_concat later _ _ htake hne, hsame.trans hroster⟩
  exact hkept.2

/-- A task that was told to stop can finish, from wherever it is. -/
theorem exists_finish (s : Session) (htold : s.told = true) :
    ∃ later t, s.run later = some t ∧ t.phase = .finished := by
  have hleave : s.phase = .subscribing ∨ s.phase = .following →
      ∃ later t, s.run later = some t ∧ t.phase = .finished := by
    intro hphase
    rcases step_seeStop s htold hphase with ⟨line, hline⟩
    refine ⟨[.seeStop] ++ [.release], (s.leave line).finish [], ?_, rfl⟩
    rw [run_append, run_singleton, hline, Option.bind_some, run_singleton]
    rfl
  cases hphase : s.phase with
  | subscribing => exact hleave (Or.inl hphase)
  | following => exact hleave (Or.inr hphase)
  | releasing =>
      refine ⟨[.release], s.finish [], ?_, rfl⟩
      rw [run_singleton, step, hphase]
      rfl
  | finished => exact ⟨[], s, rfl, hphase⟩

/-- A stop of a handle that is no longer held changes nothing. -/
theorem step_stop_of_not_held (s : Session) (hheld : s.handle ≠ .held)
    (hdropped : s.handle ≠ .dropped) : s.step .stop = some s := by
  rw [step]
  cases hhandle : s.handle with
  | held => exact absurd hhandle hheld
  | stopping => rfl
  | stopped => rfl
  | dropped => exact absurd hhandle hdropped

/-- The release of a subscription over every run of a session, whatever the
    source, the feed and the holder of the handle do in whatever order. It
    happens at most once, has happened once when the task has finished, and
    not while the task subscribes or follows. Behind it no event is taken and
    nothing is published. A stop returns only where the release has completed,
    a further stop changes nothing, and a task that was told to stop can
    always finish. -/
theorem release_of_run (roster : Roster) (room : Nat) (moves : List Move) (s : Session)
    (h : (start roster room).run moves = some s) :
    s.releases ≤ 1 ∧
      (s.phase = .finished → s.releases = 1) ∧
      (s.phase = .subscribing ∨ s.phase = .following → s.releases = 0) ∧
      (0 < s.releases → ∀ later t, s.run later = some t →
        .take ∉ later ∧ t.roster = s.roster) ∧
      (.returnStop ∈ moves → s.phase = .finished ∧ s.releases = 1 ∧
        (.release ∈ moves ∨ .failRelease ∈ moves)) ∧
      (.stop ∈ moves → s.handle ≠ .dropped → s.step .stop = some s) ∧
      (s.told = true → ∃ later t, s.run later = some t ∧ t.phase = .finished) := by
  have ha := accounted_run roster room moves s h
  have hfinished : s.phase = .finished → s.releases = 1 := by
    intro hfin
    rw [ha.releases, hfin]
    rfl
  refine ⟨?_, hfinished, fun hphase => ?_, fun hpos later t hrun => ?_, fun hmem => ?_,
    fun hmem hdropped => ?_, exists_finish s⟩
  · rw [ha.releases]
    exact Phase.releases_le_one s.phase
  · rw [ha.releases]
    exact (Phase.releases_eq_zero_iff s.phase).mpr hphase
  · rw [ha.releases] at hpos
    have hone := Phase.releases_le_one s.phase
    exact silent_run s t later (by omega) hrun
  · have hfin := ha.returned hmem
    exact ⟨hfin, hfinished hfin, ha.completed hfin⟩
  -- The first stop has taken the handle away, so another one finds none.
  · exact step_stop_of_not_held s (fun hheld => ha.held hheld hmem) hdropped

/-- A stop with an event still waiting, behind which the source fails to
    release and a second stop comes. -/
theorem release_of_stopped_run :
    ∃ s, (start Roster.empty 64).run [.subscribe, .arrive ⟨.created, "tm", 1⟩, .stop, .seeStop,
        .failRelease, .returnStop, .stop] = some s ∧
      s.phase = .finished ∧ s.releases = 1 ∧ s.roster = Roster.empty := by
  refine ⟨_, rfl, ?_⟩
  have h := release_of_run Roster.empty 64 [.subscribe, .arrive ⟨.created, "tm", 1⟩, .stop,
    .seeStop, .failRelease, .returnStop, .stop] _ rfl
  rcases h.2.2.2.2.1 (by decide) with ⟨hphase, hreleases, _⟩
  exact ⟨hphase, hreleases, rfl⟩

end Session

end Roster

end StreamRoster
