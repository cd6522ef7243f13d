import StreamRoster.Proofs.Roster.Release

/-!
# Events Reach the Roster in Order

The roster of a session is at every moment the roster it started with and the
first few events that arrived, applied in order and each once.

Which events arrived is read off the moves, and so is how many of them the
task took; `applied` puts the two together and never looks at a session. The
feed between them is a queue, and `Delivered` is what a queue gives: what was
taken is a start of what arrived, and what waits is the rest of it. Only
while the task has not left does the second part hold, for leaving gives up
what waits.

That is also why the two ways of leaving differ. A stop may be seen with
events still waiting, and these are lost. The end of the feed is seen only
when none waits, so there the start is all of it, and closing the feed throws
nothing away.

Behind the release the list stays what it is. It can be read as long as
somebody watches it, for nothing that happens later takes it back.

## Main definitions

* `arrivals`: The events that arrived in a run.
* `applied`: The events that were taken in a run.
* `Delivered`: How roster and waiting events go with the moves made.

## Theorems

* `arrivals_concat`: The arrivals of a run with one more move.
* `delivered_step`: A move keeps the delivery in order.
* `delivered_run`: Every run keeps the delivery in order.
* `applied_prefix_applied`: What was taken stays taken.
* `roster_of_run`: The roster over every run of a session.
-/

namespace StreamRoster

namespace Roster

namespace Session

/-- The events that arrived in a run, in order. -/
def arrivals (moves : List Move) : List Event := moves.filterMap Move.event?

/-- The events that were taken in a run: as many of those that arrived as
    there were takes. -/
def applied (moves : List Move) : List Event := (arrivals moves).take (moves.count .take)

theorem arrivals_append (moves later : List Move) :
    arrivals (moves ++ later) = arrivals moves ++ arrivals later :=
  List.filterMap_append

theorem arrivals_concat (moves : List Move) (m : Move) :
    arrivals (moves ++ [m]) = arrivals moves ++ m.event?.toList := by
  rw [arrivals_append]
  cases h : m.event? with
  | none => rw [arrivals, arrivals, List.filterMap_cons_none h]; rfl
  | some event => rw [arrivals, arrivals, List.filterMap_cons_some h]; rfl

theorem count_take_concat (moves : List Move) (m : Move) (h : m ≠ .take) :
    (moves ++ [m]).count .take = moves.count .take := by
  rw [List.count_append, List.count_cons_of_ne h, List.count_nil, Nat.add_zero]

/-- How the roster and the waiting events of a session go with the moves that
    led to it, from the roster it started with. -/
structure Delivered (first : Roster) (moves : List Move) (s : Session) : Prop where
  taken : moves.count .take ≤ (arrivals moves).length
  roster : s.roster = (applied moves).foldl Roster.apply first
  waiting : s.phase.releases = 0 → s.waiting = (arrivals moves).drop (moves.count .take)
  ended : .seeEnd ∈ moves → s.phase.releases = 1 ∧ applied moves = arrivals moves

theorem delivered_start (first : Roster) (room : Nat) :
    Delivered first [] (start first room) where
  taken := Nat.le_refl 0
  roster := rfl
  waiting _ := rfl
  ended h := absurd h List.not_mem_nil

/-- In front of the release the end of the feed was not seen yet. -/
theorem seeEnd_not_mem (first : Roster) (moves : List Move) (s : Session)
    (h : Delivered first moves s) (hreleases : s.phase.releases = 0) : .seeEnd ∉ moves := by
  intro hmem
  have hbehind := (h.ended hmem).1
  omega

/-- A take: the first event that waits is the next of those that arrived. -/
theorem delivered_take (first : Roster) (moves : List Move) (s s' : Session) (event : Event)
    (h : Delivered first moves s) (hphase : s.phase = .following)
    (hwaiting : s.waiting = event :: s'.waiting) (hroster : s'.roster = s.roster.apply event) :
    Delivered first (moves ++ [.take]) s' := by
  have hreleases : s.phase.releases = 0 := by rw [hphase]; rfl
  have hdrop : (arrivals moves).drop (moves.count .take) = event :: s'.waiting :=
    (h.waiting hreleases).symm.trans hwaiting
  have harrivals : arrivals (moves ++ [.take]) = arrivals moves := by
    rw [arrivals_concat]
    exact List.append_nil _
  have hcount : (moves ++ [Move.take]).count .take = moves.count .take + 1 := by
    rw [List.count_append, List.count_singleton_self]
  have hnext : (arrivals moves)[moves.count .take]? = some event := by
    rw [← List.head?_drop, hdrop, List.head?_cons]
  refine ⟨?_, ?_, fun _ => ?_, fun hmem => ?_⟩
  · rw [harrivals, hcount]
    exact (List.getElem?_eq_some_iff.mp hnext).1
  · rw [hroster, h.roster, applied, applied, harrivals, hcount, List.take_add_one, hnext,
      List.foldl_append]
    rfl
  · rw [harrivals, hcount, ← List.tail_drop, hdrop, List.tail_cons]
  · exact absurd hmem (not_mem_concat moves _ _ (seeEnd_not_mem first moves s h hreleases) nofun)

/-- An arrival: the new event stands behind all that arrived and behind all
    that waits. -/
theorem delivered_arrive (first : Roster) (moves : List Move) (s s' : Session) (event : Event)
    (h : Delivered first moves s) (hreleases : s.phase.releases = 0)
    (hwaiting : s'.waiting = s.waiting ++ [event]) (hroster : s'.roster = s.roster) :
    Delivered first (moves ++ [.arrive event]) s' := by
  have harrivals : arrivals (moves ++ [.arrive event]) = arrivals moves ++ [event] :=
    arrivals_concat moves (.arrive event)
  have hcount := count_take_concat moves (.arrive event) nofun
  refine ⟨?_, ?_, fun _ => ?_, fun hmem => ?_⟩
  · rw [harrivals, hcount, List.length_append]
    exact Nat.le_add_right_of_le h.taken
  · rw [hroster, h.roster, applied, applied, harrivals, hcount,
      List.take_append_of_le_length h.taken]
  · rw [hwaiting, h.waiting hreleases, harrivals, hcount,
      List.drop_append_of_le_length h.taken]
  · exact absurd hmem (not_mem_concat moves _ _ (seeEnd_not_mem first moves s h hreleases) nofun)

/-- Any other move: what arrived and what was taken stay the same, and the end
    of the feed is seen only where nothing waits. -/
theorem delivered_other (first : Roster) (moves : List Move) (m : Move) (s s' : Session)
    (h : Delivered first moves s) (hstep : s.step m = some s') (htake : m ≠ .take)
    (hevent : m.event? = none) (hroster : s'.roster = s.roster)
    (hwaiting : s'.phase.releases = 0 → s'.waiting = s.waiting)
    (hend : m = .seeEnd → s.phase = .following ∧ s'.phase = .releasing ∧ s.waiting = []) :
    Delivered first (moves ++ [m]) s' := by
  have hmono := releases_mono_of_step s s' m hstep
  have hone := Phase.releases_le_one s'.phase
  have harrivals : arrivals (moves ++ [m]) = arrivals moves := by
    rw [arrivals_concat, hevent]
    exact List.append_nil _
  have hcount := count_take_concat moves m htake
  have happlied : applied (moves ++ [m]) = applied moves := by
    rw [applied, applied, harrivals, hcount]
  refine ⟨?_, ?_, fun hreleases => ?_, fun hmem => ?_⟩
  · rw [harrivals, hcount]
    exact h.taken
  · rw [hroster, h.roster, happlied]
  · rw [hwaiting hreleases, h.waiting (by omega), harrivals, hcount]
  · rw [happlied, harrivals]
    rcases (mem_concat_iff moves m .seeEnd).mp hmem with hmem | heq
    · rcases h.ended hmem with ⟨hbehind, hall⟩
      exact ⟨by omega, hall⟩
    · rcases hend heq.symm with ⟨hfrom, hto, hempty⟩
      -- With nothing left to take, what was taken is all that arrived.
      have hdrop : (arrivals moves).drop (moves.count .take) = [] := by
        rw [← h.waiting (by rw [hfrom]; rfl), hempty]
      exact ⟨by rw [hto]; rfl, List.take_of_length_le (List.drop_eq_nil_iff.mp hdrop)⟩

/-- A move keeps the delivery in order. The cases are what a move can do to
    the feed, not the moves. -/
theorem delivered_step (first : Roster) (moves : List Move) (m : Move) (s s' : Session)
    (h : Delivered first moves s) (hstep : s.step m = some s') :
    Delivered first (moves ++ [m]) s' := by
  rcases feed_of_step s s' m hstep with ⟨rfl, hphase, event, hwaiting, hroster⟩ |
    ⟨event, rfl, hreleases, hwaiting, hroster⟩ | ⟨htake, hevent, hroster, hwaiting, hend⟩
  · exact delivered_take first moves s s' event h hphase hwaiting hroster
  · exact delivered_arrive first moves s s' event h hreleases hwaiting hroster
  · exact delivered_other first moves m s s' h hstep htake hevent hroster hwaiting hend

/-- Every run keeps the delivery in order. -/
theorem delivered_run (first : Roster) (room : Nat) (moves : List Move) (s : Session)
    (h : (start first room).run moves = some s) : Delivered first moves s :=
  run_induct (Delivered first) (start first room) (delivered_start first room)
    (delivered_step first) moves s h

/-- What was taken stays taken, in its order: later moves only add behind. -/
theorem applied_prefix_applied (moves later : List Move)
    (h : moves.count .take ≤ (arrivals moves).length) :
    applied moves <+: applied (moves ++ later) := by
  have hstart : applied moves = (arrivals (moves ++ later)).take (moves.count .take) := by
    rw [applied, arrivals_append, List.take_append_of_le_length h]
  rw [hstart, applied, List.count_append]
  exact List.take_prefix_take_left (Nat.le_add_right _ _)

/-- The roster over every run of a session, whatever roster it starts with and
    however arrivals, the end of the feed, stops and drops come between. It is
    the first roster with a start of the arrivals applied in order, each once.
    That start only grows; it is all of the arrivals if the task saw the feed
    end; and once the task has finished, the list that can be read stays the one that
    this start has published. -/
theorem roster_of_run (first : Roster) (room : Nat) (moves : List Move) (s : Session)
    (h : (start first room).run moves = some s) :
    s.roster = (applied moves).foldl Roster.apply first ∧
      applied moves <+: arrivals moves ∧
      (∀ later t, s.run later = some t →
        applied moves <+: applied (moves ++ later) ∧
          t.roster = (applied (moves ++ later)).foldl Roster.apply first) ∧
      (.seeEnd ∈ moves → applied moves = arrivals moves) ∧
      (s.phase = .finished → ∀ later t, s.run later = some t →
        t.snapshot = ((applied moves).foldl Roster.apply first).snapshot) := by
  have hd := delivered_run first room moves s h
  refine ⟨hd.roster, List.take_prefix _ _, fun later t hrun => ?_, fun hmem => (hd.ended hmem).2,
    fun hfin later t hrun => ?_⟩
  · have hboth : (start first room).run (moves ++ later) = some t := by
      rw [run_append, h, Option.bind_some, hrun]
    exact ⟨applied_prefix_applied moves later hd.taken,
      (delivered_run first room (moves ++ later) t hboth).roster⟩
  · have hbehind : s.phase.releases = 1 := by
      rw [hfin]
      rfl
    rw [snapshot, (silent_run s t later hbehind hrun).2, hd.roster]

/-- The feed closes behind two events of which one waits, the handle is
    dropped, and the task still takes both. -/
theorem roster_of_closed_run :
    ∃ s, (start Roster.empty 64).run [.arrive ⟨.created, "tm", 1⟩, .subscribe, .take,
        .arrive ⟨.updated, "tm", 5⟩, .close, .drop, .take, .seeEnd, .release] = some s ∧
      s.roster = (Roster.empty.apply ⟨.created, "tm", 1⟩).apply ⟨.updated, "tm", 5⟩ := by
  refine ⟨_, rfl, ?_⟩
  have h := roster_of_run Roster.empty 64 [.arrive ⟨.created, "tm", 1⟩, .subscribe, .take,
    .arrive ⟨.updated, "tm", 5⟩, .close, .drop, .take, .seeEnd, .release] _ rfl
  rw [h.1, h.2.2.2.1 (by decide)]
  rfl

end Session

end Roster

end StreamRoster
