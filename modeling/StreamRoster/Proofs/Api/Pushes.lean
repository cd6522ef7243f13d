import Mathlib.Data.List.Basic
import StreamRoster.Proofs.Api.Moves

/-!
# The Lists That Are Pushed

Which of the published lists are queued for a client, whenever they are
published and however the steps of the tasks fall between them.

A publication is known by its version, and versions only grow. So the lists that
were published stand in a row with growing versions, the current one last, and
that is all `InOrder` asks. A list may be added to a part of such a row if
everything in the part is older, and then it is still a part of the row.

`Stands` says for each state of the pushing task how what it has queued compares
with what it has seen. The delicate one is between being told of a list and
reading it: the version of that moment counts as seen, though what is queued is
older. A list that is published in between is the one that is read, and none is
read twice, because all that is queued is older than the current list.

A task that waits has queued the list with the version it saw last. If nothing
new was published that is the current list, and only then can the task end by
itself; so no list is lost that is published before the publisher is gone.

## Main definitions

* `InOrder`: A row of publications with the current one last.
* `history`: The lists that were current in a run.
* `Stands`: What was queued, for each state of the pushing task.
* `Watched`: How a client stands to the lists published in a run.
* `PushedInOrder`: What the queue of a client holds of the published lists.

## Theorems

* `inOrder_history`: Publishing makes a row.
* `sublist_concat`: A part that is older, with the current list added.
* `watched_step`: A move keeps the watch.
* `watched_run`: Every run keeps the watch.
* `catches_up`: The task can always reach the current list.
* `pushes_of_run`: The lists that any run queues.
-/

namespace StreamRoster

namespace Client

/-- A row of publications with growing versions, the current one last. -/
structure InOrder (row : List (Publication (List Item))) (current : Publication (List Item)) :
    Prop where
  increasing : row.Pairwise fun p q => p.version < q.version
  last : row.getLast? = some current

/-- The lists that were current in a run, in order. -/
def history (first : Publication (List Item)) (moves : List Move) :
    List (Publication (List Item)) :=
  (published moves).scanl Publication.publish first

/-- What is in a row is the current list or older. -/
theorem version_lt_or_eq (row : List (Publication (List Item)))
    (current p : Publication (List Item)) (h : InOrder row current) (hmem : p ∈ row) :
    p.version < current.version ∨ p = current := by
  rcases List.getLast?_eq_some_iff.mp h.last with ⟨older, rfl⟩
  rcases List.mem_append.mp hmem with holder | hlast
  · have hincreasing := List.pairwise_append.mp h.increasing
    exact Or.inl (hincreasing.2.2 p holder current (List.mem_singleton_self _))
  · exact Or.inr (List.mem_singleton.mp hlast)

theorem inOrder_concat (row : List (Publication (List Item)))
    (current : Publication (List Item)) (items : List Item) (h : InOrder row current) :
    InOrder (row ++ [current.publish items]) (current.publish items) := by
  refine ⟨?_, List.getLast?_concat⟩
  refine List.pairwise_append.mpr ⟨h.increasing, List.pairwise_singleton _ _, fun p hp q hq => ?_⟩
  rw [List.mem_singleton.mp hq]
  rcases version_lt_or_eq row current p h hp with hlt | rfl
  · exact Nat.lt_succ_of_lt hlt
  · exact Nat.lt_succ_self _

/-- Publishing lists one after the other makes a row of them. -/
theorem inOrder_history (first : Publication (List Item)) (moves : List Move) :
    InOrder (history first moves) ((published moves).foldl Publication.publish first) := by
  rw [history]
  induction published moves using List.reverseRecOn with
  | nil => exact ⟨List.pairwise_singleton _ _, rfl⟩
  | append_singleton lists items ih =>
      rw [List.scanl_append, List.foldl_append]
      exact inOrder_concat _ _ items ih

/-- A part of a row whose lists are older than the current one stays a part of
    it when that is added. -/
theorem sublist_concat (row older : List (Publication (List Item)))
    (current : Publication (List Item)) (h : InOrder row current) (hsub : older.Sublist row)
    (holder : ∀ p ∈ older, p.version < current.version) : (older ++ [current]).Sublist row := by
  rcases List.getLast?_eq_some_iff.mp h.last with ⟨front, rfl⟩
  rcases List.sublist_append_iff.mp hsub with ⟨first, second, rfl, hfirst, hsecond⟩
  rcases List.sublist_singleton.mp hsecond with rfl | rfl
  · rw [List.append_nil]
    exact hfirst.append_right _
  · -- The current list would be older than itself.
    have hself := holder current (List.mem_append_right _ (List.mem_singleton_self _))
    exact absurd hself (Nat.lt_irrefl _)

/-- The list that the task has read and not queued. -/
def Pushing.held? : Pushing → Option (Publication (List Item))
  | .holding list => some list
  | .starting | .waiting | .woken | .finished | .dropped => none

/-- How what was queued compares with what the pushing task has seen, for each
    state of the task. -/
inductive Stands (moves : List Move) (c : Client) : Pushing → Prop where
  | starting (hqueued : c.pushed = []) (hread : .read ∉ moves) : Stands moves c .starting
  | holding (list : Publication (List Item)) (hseen : c.seen = list.version) :
      Stands moves c (.holding list)
  | waiting (list : Publication (List Item)) (hlast : c.pushed.getLast? = some list)
      (hseen : c.seen = list.version) : Stands moves c .waiting
  | woken (hsome : c.pushed ≠ []) (holder : ∀ p ∈ c.pushed, p.version < c.listing.version) :
      Stands moves c .woken
  | finished (hpublishing : c.publishing = false)
      (hlast : c.pushed.getLast? = some c.listing) : Stands moves c .finished
  | dropped (hover : c.answering = .finished ∨ c.sending = false) : Stands moves c .dropped

/-- How a client stands to the lists that were published in the moves that led
    to it. -/
structure Watched (first : Publication (List Item)) (moves : List Move) (c : Client) :
    Prop where
  listing : c.listing = (published moves).foldl Publication.publish first
  queued : (c.pushed ++ c.pushing.held?.toList).Sublist (history first moves)
  begun : ∀ p, (c.pushed ++ c.pushing.held?.toList).head? = some p → ∃ before after,
    moves = before ++ .read :: after ∧ .read ∉ before ∧
      p = (published before).foldl Publication.publish first
  stands : Stands moves c c.pushing

theorem watched_start (first : Publication (List Item)) (seen : Nat) (publishing : Bool) :
    Watched first [] (start first seen publishing) where
  listing := rfl
  queued := List.nil_sublist _
  begun := nofun
  stands := Stands.starting rfl List.not_mem_nil

theorem history_concat (first : Publication (List Item)) (moves : List Move) (m : Move) :
    (history first moves).Sublist (history first (moves ++ [m])) := by
  rw [history, history, published_concat, List.scanl_append]
  exact List.sublist_append_left _ _

/-- What has begun goes on. -/
theorem begun_concat (first p : Publication (List Item)) (moves : List Move) (m : Move)
    (h : ∃ before after, moves = before ++ .read :: after ∧ .read ∉ before ∧
      p = (published before).foldl Publication.publish first) :
    ∃ before after, moves ++ [m] = before ++ .read :: after ∧ .read ∉ before ∧
      p = (published before).foldl Publication.publish first := by
  rcases h with ⟨before, after, rfl, hread, hp⟩
  exact ⟨before, after ++ [m], by rw [List.append_assoc, List.cons_append], hread, hp⟩

/-- A move that leaves the pushing task where it is. -/
theorem stands_keep (moves : List Move) (m : Move) (c c' : Client) (pushing : Pushing)
    (h : Stands moves c pushing) (hread : m ≠ .read) (hpushed : c'.pushed = c.pushed)
    (hseen : c'.seen = c.seen) (hversion : c.listing.version ≤ c'.listing.version)
    (hclosed : c.publishing = false → c'.publishing = false ∧ c'.listing = c.listing)
    (hover : c.answering = .finished ∨ c.sending = false →
      c'.answering = .finished ∨ c'.sending = false) :
    Stands (moves ++ [m]) c' pushing := by
  cases h with
  | starting hqueued hmem =>
      refine Stands.starting (hpushed.trans hqueued) fun hlater => ?_
      rcases List.mem_append.mp hlater with hearlier | hlast
      · exact hmem hearlier
      · exact hread (List.mem_singleton.mp hlast).symm
  | holding list hlist => exact Stands.holding list (hseen.trans hlist)
  | waiting list hlast hlist =>
      exact Stands.waiting list (by rw [hpushed, hlast]) (hseen.trans hlist)
  | woken hsome holder =>
      rw [← hpushed] at hsome holder
      exact Stands.woken hsome fun p hp => Nat.lt_of_lt_of_le (holder p hp) hversion
  | finished hpublishing hlast =>
      rcases hclosed hpublishing with ⟨hstill, hlisting⟩
      exact Stands.finished hstill (by rw [hpushed, hlast, hlisting])
  | dropped hgone => exact Stands.dropped (hover hgone)

/-- A move that leaves the pushing task where it is keeps the watch. -/
theorem watched_keep (first : Publication (List Item)) (moves : List Move) (m : Move)
    (c c' : Client) (h : Watched first moves c) (hstep : c.step m = some c') (hread : m ≠ .read)
    (hpushing : c'.pushing = c.pushing) (hpushed : c'.pushed = c.pushed)
    (hseen : c'.seen = c.seen)
    (hclosed : c.publishing = false → c'.publishing = false ∧ c'.listing = c.listing) :
    Watched first (moves ++ [m]) c' := by
  have hlisting := listing_of_step c c' m hstep
  have hversion : c.listing.version ≤ c'.listing.version := by
    rw [hlisting]
    cases m.published? with
    | none => exact Nat.le_refl _
    | some items => exact Nat.le_succ _
  refine ⟨?_, ?_, ?_, ?_⟩
  · rw [hlisting, published_concat, List.foldl_append, ← h.listing]
  · rw [hpushing, hpushed]
    exact h.queued.trans (history_concat first moves m)
  · rw [hpushing, hpushed]
    exact fun p hp => begun_concat first p moves m (h.begun p hp)
  · rw [hpushing]
    exact stands_keep moves m c c' _ h.stands hread hpushed hseen hversion hclosed
      (over_of_step c c' m hstep)

/-- A move that queues nothing, behind which the pushing task has nothing in
    hand. -/
theorem watched_empty (first : Publication (List Item)) (moves : List Move) (m : Move)
    (c c' : Client) (h : Watched first moves c) (hm : m.published? = none)
    (hlisting : c'.listing = c.listing) (hpushed : c'.pushed = c.pushed)
    (hheld : c'.pushing.held? = none) (hstands : Stands (moves ++ [m]) c' c'.pushing) :
    Watched first (moves ++ [m]) c' := by
  refine ⟨?_, ?_, fun p hp => ?_, hstands⟩
  · rw [published_of_none moves m hm, hlisting]
    exact h.listing
  · rw [hheld, hpushed, Option.toList_none, List.append_nil]
    exact (List.sublist_append_left _ _).trans (h.queued.trans (history_concat first moves m))
  · rw [hheld, hpushed, Option.toList_none, List.append_nil] at hp
    refine begun_concat first p moves m (h.begun p ?_)
    rw [List.head?_append, hp]
    rfl

/-- The current list is the last of those that were current. -/
theorem inOrder_of_watched (first : Publication (List Item)) (moves : List Move) (c : Client)
    (h : Watched first moves c) : InOrder (history first moves) c.listing := by
  rw [h.listing]
  exact inOrder_history first moves

/-- What was queued is part of what was current. -/
theorem pushed_sublist (first : Publication (List Item)) (moves : List Move) (c : Client)
    (h : Watched first moves c) : c.pushed.Sublist (history first moves) :=
  (List.sublist_append_left c.pushed c.pushing.held?.toList).trans h.queued

/-- What was queued is a row of its own. -/
theorem inOrder_pushed (first list : Publication (List Item)) (moves : List Move) (c : Client)
    (h : Watched first moves c) (hlast : c.pushed.getLast? = some list) :
    InOrder c.pushed list :=
  ⟨(inOrder_of_watched first moves c h).increasing.sublist (pushed_sublist first moves c h), hlast⟩

/-- What was queued is the current list or older. -/
theorem pushed_lt_or_eq (first p : Publication (List Item)) (moves : List Move) (c : Client)
    (h : Watched first moves c) (hmem : p ∈ c.pushed) :
    p.version < c.listing.version ∨ p = c.listing := by
  have hcurrent := (pushed_sublist first moves c h).mem hmem
  exact version_lt_or_eq _ _ p (inOrder_of_watched first moves c h) hcurrent

/-- A task that waits and has seen the version of the current list has queued
    the current list last. -/
theorem settled_of_waiting (first : Publication (List Item)) (moves : List Move) (c : Client)
    (h : Watched first moves c) (hpushing : c.pushing = .waiting)
    (hnews : c.seen = c.listing.version) : c.pushed.getLast? = some c.listing := by
  have hstands := h.stands
  rw [hpushing] at hstands
  cases hstands with
  | waiting list hlast hseen =>
      rcases pushed_lt_or_eq first list moves c h (List.mem_of_getLast? hlast) with hlt | rfl
      · omega
      · exact hlast

/-- A task that waits and has not seen the version of the current list has
    queued nothing but older lists. -/
theorem older_of_waiting (first : Publication (List Item)) (moves : List Move) (c : Client)
    (h : Watched first moves c) (hpushing : c.pushing = .waiting)
    (hnews : c.seen ≠ c.listing.version) :
    c.pushed ≠ [] ∧ ∀ p ∈ c.pushed, p.version < c.listing.version := by
  have hstands := h.stands
  rw [hpushing] at hstands
  cases hstands with
  | waiting list hlast hseen =>
      have hmem := List.mem_of_getLast? hlast
      refine ⟨List.ne_nil_of_mem hmem, fun p hp => ?_⟩
      -- The list that was seen is the last one queued, and it is not the current one.
      have holder : list.version < c.listing.version := by
        rcases pushed_lt_or_eq first list moves c h hmem with hlt | rfl
        · exact hlt
        · exact absurd hseen hnews
      have hrow := inOrder_pushed first list moves c h hlast
      rcases version_lt_or_eq _ list p hrow hp with hlt | rfl
      · exact Nat.lt_trans hlt holder
      · exact holder

/-- Reading: everything queued is older than the list that is read. -/
theorem watched_read (first : Publication (List Item)) (moves : List Move) (c : Client)
    (h : Watched first moves c) (hpushing : c.pushing = .starting ∨ c.pushing = .woken) :
    Watched first (moves ++ [.read]) c.read := by
  have hpublished := published_of_none moves .read rfl
  have hstands := h.stands
  have hread : (∀ p ∈ c.pushed, p.version < c.listing.version) ∧
      (c.pushed = [] → .read ∉ moves) := by
    rcases hpushing with hstarting | hwoken
    · rw [hstarting] at hstands
      cases hstands with
      | starting hqueued hmem =>
          rw [hqueued]
          exact ⟨fun _ hp => absurd hp List.not_mem_nil, fun _ => hmem⟩
    · rw [hwoken] at hstands
      cases hstands with
      | woken hsome holder => exact ⟨holder, fun hnone => absurd hnone hsome⟩
  refine ⟨?_, ?_, fun p hp => ?_, Stands.holding c.listing rfl⟩
  · rw [hpublished]
    exact h.listing
  · rw [history, hpublished]
    exact sublist_concat _ _ _ (inOrder_of_watched first moves c h)
      (pushed_sublist first moves c h) hread.1
  · -- Only if nothing was queued before is this the first read.
    cases hqueued : c.pushed with
    | nil =>
        have hfirst : (c.pushed ++ [c.listing]).head? = some p := hp
        rw [hqueued] at hfirst
        rcases Option.some.inj hfirst with rfl
        exact ⟨moves, [], rfl, hread.2 hqueued, h.listing⟩
    | cons q rest =>
        have hfirst : (c.pushed ++ [c.listing]).head? = some p := hp
        refine begun_concat first p moves .read (h.begun p ?_)
        rw [hqueued] at hfirst ⊢
        exact hfirst

/-- Queueing: what was in hand is what was queued last. -/
theorem watched_push (first : Publication (List Item)) (moves : List Move) (c : Client)
    (list : Publication (List Item)) (h : Watched first moves c)
    (hpushing : c.pushing = .holding list) :
    Watched first (moves ++ [.push])
      { c with queue := c.queue ++ [.listing list], pushing := .waiting } := by
  have hpushed := pushed_of_queue c
    { c with queue := c.queue ++ [.listing list], pushing := .waiting } (.listing list) rfl
  have hqueued := h.queued
  have hbegun := h.begun
  have hstands := h.stands
  rw [hpushing] at hqueued hbegun hstands
  refine ⟨?_, ?_, fun p hp => ?_, ?_⟩
  · rw [published_of_none moves .push rfl]
    exact h.listing
  · rw [hpushed, Pushing.held?, Option.toList_none, List.append_nil]
    exact hqueued.trans (history_concat first moves .push)
  · rw [hpushed, Pushing.held?, Option.toList_none, List.append_nil] at hp
    exact begun_concat first p moves .push (hbegun p hp)
  · cases hstands with
    | holding _ hseen =>
        refine Stands.waiting list ?_ hseen
        rw [hpushed]
        exact List.getLast?_concat

theorem watched_step (first : Publication (List Item)) (moves : List Move) (m : Move)
    (c c' : Client) (h : Watched first moves c) (hstep : c.step m = some c') :
    Watched first (moves ++ [m]) c' := by
  have hkeep := watched_keep first moves m c c' h hstep
  have hempty := watched_empty first moves m c c' h
  cases leads_of_step c c' m hstep with
  -- A publisher that publishes or is being closed has not been closed before.
  | publish items hpublishing =>
      exact hkeep nofun rfl rfl rfl fun hclosed =>
        absurd (hpublishing.symm.trans hclosed) nofun
  | closePublisher hpublishing =>
      exact hkeep nofun rfl rfl rfl fun hclosed =>
        absurd (hpublishing.symm.trans hclosed) nofun
  | read hpushing => exact watched_read first moves c h hpushing
  | push list hpushing => exact watched_push first moves c list h hpushing
  | failPush list hpushing hsending =>
      exact hempty rfl rfl rfl rfl (Stands.dropped (Or.inr hsending))
  | wake hpushing hnews =>
      rcases older_of_waiting first moves c h hpushing hnews with ⟨hsome, holder⟩
      exact hempty rfl rfl rfl rfl (Stands.woken hsome holder)
  | finish hpushing hnews hpublishing =>
      have hlast := settled_of_waiting first moves c h hpushing hnews
      exact hempty rfl rfl rfl rfl (Stands.finished hpublishing hlast)
  | dropPushing hpushing hover => exact hempty rfl rfl rfl rfl (Stands.dropped hover)
  | answer response hanswering =>
      refine hkeep nofun rfl ?_ rfl fun hclosed => ⟨hclosed, rfl⟩
      exact (pushed_of_queue c _ (.answer response) rfl).trans (List.append_nil _)
  | send | receiveText | receiveOther | receiveEnd | handle | loseAnswer | dropAnswering
  | cutOff => exact hkeep nofun rfl rfl rfl fun hclosed => ⟨hclosed, rfl⟩

/-- Every run keeps the watch. -/
theorem watched_run (first : Publication (List Item)) (seen : Nat) (publishing : Bool)
    (moves : List Move) (c : Client) (h : (start first seen publishing).run moves = some c) :
    Watched first moves c :=
  run_induct (Watched first) _ (watched_start first seen publishing)
    (fun moves m c c' hwatched hstep => watched_step first moves m c c' hwatched hstep) moves c h

/-- A task that reads next queues the current list. -/
theorem catches_up_of_reading (c : Client) (hsending : c.sending = true)
    (hpushing : c.pushing = .starting ∨ c.pushing = .woken) :
    c.run [.read, .push] = some { c with
      queue := c.queue ++ [.listing c.listing], pushing := .waiting,
      seen := c.listing.version } := by
  refine run_cons c c.read _ .read _ ?_ (run_cons c.read (c.read.push c.listing) _ .push _ rfl ?_)
  · rcases hpushing with hstarting | hwoken
    · rw [step, hstarting]
    · rw [step, hwoken]
  · have hread : c.read.sending = true := hsending
    rw [push, if_pos hread]
    rfl

/-- A task that waits queues the current list unless it has seen that. -/
theorem catches_up_of_waiting (c : Client) (hsending : c.sending = true)
    (hpushing : c.pushing = .waiting) :
    ∃ task d, (∀ m ∈ task, m ∈ [.wake, .read, .push]) ∧ c.run task = some d ∧
      d.listing = c.listing ∧ d.publishing = c.publishing ∧ d.pushing = .waiting ∧
      d.seen = d.listing.version := by
  by_cases hnews : c.seen = c.listing.version
  · exact ⟨[], c, fun _ hmem => absurd hmem List.not_mem_nil, rfl, rfl, rfl, hpushing, hnews⟩
  · have hwake : c.step .wake =
        some { c with pushing := .woken, seen := c.listing.version } := by
      simp only [step, hasNews, hpushing, hnews, ne_eq, not_false_eq_true, decide_true,
        Bool.and_true, if_true]
    exact ⟨[.wake, .read, .push], _, fun _ hmem => hmem,
      run_cons c _ _ .wake _ hwake (catches_up_of_reading _ hsending (Or.inr rfl)), rfl, rfl, rfl,
      rfl⟩

/-- A task that is not over can reach the current list by steps of its own. -/
theorem catches_up (c : Client) (hsending : c.sending = true) (hfinished : c.pushing ≠ .finished)
    (hdropped : c.pushing ≠ .dropped) :
    ∃ task d, (∀ m ∈ task, m ∈ [.wake, .read, .push]) ∧ c.run task = some d ∧
      d.listing = c.listing ∧ d.publishing = c.publishing ∧ d.pushing = .waiting ∧
      d.seen = d.listing.version := by
  have hmem : ∀ m ∈ [Move.read, .push], m ∈ [Move.wake, .read, .push] :=
    fun m hm => List.mem_cons_of_mem _ hm
  cases hpushing : c.pushing with
  | finished => exact absurd hpushing hfinished
  | dropped => exact absurd hpushing hdropped
  | waiting => exact catches_up_of_waiting c hsending hpushing
  | starting =>
      exact ⟨_, _, hmem, catches_up_of_reading c hsending (Or.inl hpushing), rfl, rfl, rfl, rfl⟩
  | woken =>
      exact ⟨_, _, hmem, catches_up_of_reading c hsending (Or.inr hpushing), rfl, rfl, rfl, rfl⟩
  -- A list that was read before is pushed first, which may not be the newest.
  | holding list =>
      have hpush : c.step .push =
          some { c with queue := c.queue ++ [.listing list], pushing := .waiting } := by
        simp only [step, hpushing, push, hsending, if_true]
      rcases catches_up_of_waiting
          { c with queue := c.queue ++ [.listing list], pushing := .waiting } hsending rfl with
        ⟨task, d, htask, hrun, hlisting, hpublishing, hwaiting, hseen⟩
      refine ⟨.push :: task, d, fun m hm => ?_, run_cons c _ d .push task hpush hrun, hlisting,
        hpublishing, hwaiting, hseen⟩
      rcases List.mem_cons.mp hm with rfl | htail
      · exact hmem _ (List.mem_cons_of_mem _ (List.mem_singleton_self _))
      · exact htask m htail

/-- What the queue of a client holds of the lists that were published in the
    moves that led to it. -/
structure PushedInOrder (first : Publication (List Item)) (moves : List Move) (c : Client) :
    Prop where
  /-- The current list is the one published last. -/
  current : c.listing = (published moves).foldl Publication.publish first
  /-- The lists queued are among those that were current, in their order. -/
  subsequence : c.pushed.Sublist (history first moves)
  /-- Their versions grow, so none is queued twice. -/
  increasing : c.pushed.Pairwise fun p q => p.version < q.version
  /-- The first of them was current when the task first read. -/
  begun : ∀ p, c.pushed.head? = some p → ∃ before after, moves = before ++ .read :: after ∧
    .read ∉ before ∧ p = (published before).foldl Publication.publish first
  /-- While the task waits and nothing is unseen, the last of them is the
      current one. -/
  settled : c.pushing = .waiting → c.hasNews = false → c.pushed.getLast? = some c.listing
  /-- The task ends by itself only when the publisher is gone, and then the last
      list of the publisher was queued. -/
  finished : c.pushing = .finished →
    c.publishing = false ∧ c.pushed.getLast? = some c.listing
  /-- Otherwise it ends only with the connection. -/
  dropped : c.pushing = .dropped → c.answering = .finished ∨ c.sending = false
  /-- Until then it can queue the current list by steps of its own, whether
      anything is published again or not. -/
  reachable : c.sending = true → c.pushing ≠ .finished → c.pushing ≠ .dropped →
    ∃ task d, (∀ m ∈ task, m ∈ [.wake, .read, .push]) ∧ c.run task = some d ∧
      d.listing = c.listing ∧ d.publishing = c.publishing ∧ d.pushing = .waiting ∧
      d.pushed.getLast? = some c.listing

/-- The lists that any run queues for a client, whichever lists are published in
    it, and when, whenever the publisher is gone, and however the steps of the
    task fall between. -/
theorem pushes_of_run (first : Publication (List Item)) (seen : Nat) (publishing : Bool)
    (moves : List Move) (c : Client) (h : (start first seen publishing).run moves = some c) :
    PushedInOrder first moves c := by
  have hwatched := watched_run first seen publishing moves c h
  have hqueued := pushed_sublist first moves c hwatched
  refine
    { current := hwatched.listing
      subsequence := hqueued
      increasing := (inOrder_history first moves).increasing.sublist hqueued
      begun := fun p hp => hwatched.begun p ?_
      settled := fun hpushing hnews => ?_
      finished := fun hpushing => ?_
      dropped := fun hpushing => ?_
      reachable := fun hsending hfinished hdropped => ?_ }
  · rw [List.head?_append, hp]
    rfl
  · rw [hasNews, decide_eq_false_iff_not, not_not] at hnews
    exact settled_of_waiting first moves c hwatched hpushing hnews
  · have hstands := hwatched.stands
    rw [hpushing] at hstands
    cases hstands with
    | finished hpublishing hlast => exact ⟨hpublishing, hlast⟩
  · have hstands := hwatched.stands
    rw [hpushing] at hstands
    cases hstands with
    | dropped hover => exact hover
  -- What the task is led to is a run again, and what holds of runs holds there.
  · rcases catches_up c hsending hfinished hdropped with
      ⟨task, d, htask, hrun, hlisting, hpublishing, hwaiting, hseen⟩
    have hwhole : (start first seen publishing).run (moves ++ task) = some d := by
      rw [run_append, h]
      exact hrun
    have hlast := settled_of_waiting first _ d
      (watched_run first seen publishing (moves ++ task) d hwhole) hwaiting hseen
    exact ⟨task, d, htask, hrun, hlisting, hpublishing, hwaiting, hlast.trans (hlisting ▸ rfl)⟩

/-- A list is published between the first read and its queueing, two more before
    the task is woken, and the last one between that and the next read, just
    before the publisher is gone. Two lists are queued. -/
theorem pushes_of_closed_publisher :
    ∃ c, (start ⟨[⟨"a", 1⟩], 3⟩ 1 true).run
        [.publish [⟨"b", 2⟩], .read, .publish [], .push, .publish [⟨"c", 3⟩], .wake,
          .publish [⟨"d", 4⟩], .closePublisher, .read, .push, .finish] = some c ∧
      PushedInOrder ⟨[⟨"a", 1⟩], 3⟩
        [.publish [⟨"b", 2⟩], .read, .publish [], .push, .publish [⟨"c", 3⟩], .wake,
          .publish [⟨"d", 4⟩], .closePublisher, .read, .push, .finish] c ∧
      c.pushed = [⟨[⟨"b", 2⟩], 4⟩, ⟨[⟨"d", 4⟩], 7⟩] := by
  refine ⟨_, rfl, ?_, rfl⟩
  exact pushes_of_run ⟨[⟨"a", 1⟩], 3⟩ 1 true _ _ rfl

end Client

end StreamRoster
