import Mathlib.Tactic.SplitIfs
import StreamRoster.Proofs.Roster.Moves

/-!
# Tasks That Settle

Running a task until it rests is a run like any other.

A session only says which moves are allowed. `nextMove` picks one of them for a
source of some manner, and `settle` goes on picking until there is none. What
is proved about all runs then also holds of a session that was settled, since
there is a row of moves between the two and the task makes all of them
(`settle_run`).

That settling comes to an end before its fuel does is a matter of counting. `work`
bounds the moves that the task has still to make: one for each event that waits,
and one for each phase that lies ahead. Each of its moves uses up some of that, and
where none is left the task rests. It rests in three places only: where the source
never answers, where it follows and nothing is to be done, and at the end.

Offering events is a run too, of arrivals. It stops at the first event for which
there is no room.

## Main definitions

* `Move.ofTask`: Whether a move is made by the task.
* `work`: How many moves the task has still to make at most.
* `Progress`: Whether a move of the task leaves less to do.
* `Rests`: The places where the task rests.

## Theorems

* `progress_of_nextMove`: The next move of a task is allowed and uses up work.
* `rests_of_nextMove`: Where there is no next move, the task rests.
* `settle_run`: Settling is a run of moves of the task.
* `offer_run`: Offering is a run of arrivals.
-/

namespace StreamRoster

namespace Roster

/-- Whether a move is made by the task, and not by the feed or by the holder of the
    handle. -/
def Move.ofTask : Move → Bool
  | .subscribe | .refuse | .take | .seeEnd | .seeStop | .release | .failRelease
  | .returnStop => true
  | .arrive _ | .close | .stop | .drop => false

namespace Session

/-- How many moves the task has still to make of its own accord, at most. -/
def work (s : Session) : Nat :=
  match s.phase with
  | .subscribing => s.waiting.length + 4
  | .following => s.waiting.length + 3
  | .releasing => 2
  | .finished => if s.handle = .stopping then 1 else 0

theorem work_of_subscribing (s : Session) (h : s.phase = .subscribing) :
    s.work = s.waiting.length + 4 := by
  rw [work, h]

theorem work_of_following (s : Session) (h : s.phase = .following) :
    s.work = s.waiting.length + 3 := by
  rw [work, h]

theorem work_of_finished (s : Session) (h : s.phase = .finished) :
    s.work = if s.handle = .stopping then 1 else 0 := by
  rw [work, h]

/-- Leaving gives up what waits, so there is little to do behind it. -/
theorem work_leave (s : Session) (line : Option Log.Line) : (s.leave line).work = 2 := rfl

theorem work_finish (s : Session) (lines : List Log.Line) : (s.finish lines).work < 2 := by
  rw [work_of_finished _ rfl]
  split_ifs <;> decide

theorem work_le (s : Session) : s.work ≤ s.waiting.length + 4 := by
  cases hphase : s.phase with
  | subscribing => exact Nat.le_of_eq (s.work_of_subscribing hphase)
  | following =>
      rw [s.work_of_following hphase]
      exact Nat.le_succ _
  | releasing =>
      have hwork : s.work = 2 := by rw [work, hphase]
      omega
  | finished =>
      rw [s.work_of_finished hphase]
      split_ifs <;> omega

/-! ### One move -/

/-- Whether a move is one of the task that is allowed, and leaves less to do. -/
def Progress (s : Session) (move : Move) : Prop :=
  move.ofTask = true ∧ ∃ s', s.step move = some s' ∧ s'.work < s.work

theorem progress_of_leave (s : Session) (move : Move) (line : Option Log.Line)
    (htask : move.ofTask = true) (hphase : s.phase = .subscribing ∨ s.phase = .following)
    (hstep : s.step move = some (s.leave line)) : s.Progress move := by
  refine ⟨htask, s.leave line, hstep, ?_⟩
  rw [work_leave]
  rcases hphase with hphase | hphase
  · rw [s.work_of_subscribing hphase]
    omega
  · rw [s.work_of_following hphase]
    omega

theorem progress_of_seeStop (s : Session) (htold : s.told = true)
    (hphase : s.phase = .subscribing ∨ s.phase = .following) : s.Progress .seeStop := by
  rcases step_seeStop s htold hphase with ⟨line, hstep⟩
  exact progress_of_leave s .seeStop line rfl hphase hstep

theorem progress_of_subscribing (m : Manner) (s : Session) (move : Move)
    (hphase : s.phase = .subscribing) (h : nextMove m s = some move) : s.Progress move := by
  rw [nextMove, hphase] at h
  cases hmanner : m.subscribes with
  | none =>
      simp only [hmanner, Option.ite_none_right_eq_some, Option.some.injEq] at h
      rcases h with ⟨htold, rfl⟩
      exact progress_of_seeStop s htold (Or.inl hphase)
  | some subscribes =>
      rw [hmanner] at h
      cases subscribes with
      | false =>
          rcases Option.some.inj h with rfl
          exact progress_of_leave s .refuse _ rfl (Or.inl hphase) (if_pos hphase)
      | true =>
          rcases Option.some.inj h with rfl
          refine ⟨rfl, _, if_pos hphase, ?_⟩
          rw [s.work_of_subscribing hphase]
          exact Nat.lt_succ_self _

/-- A task that follows takes what waits, then looks for the end of the feed, and
    only then for a stop. -/
theorem progress_of_following (m : Manner) (s : Session) (move : Move)
    (hphase : s.phase = .following) (h : nextMove m s = some move) : s.Progress move := by
  rw [nextMove, hphase] at h
  cases hwaiting : s.waiting with
  | cons event waiting =>
      rw [hwaiting] at h
      rcases Option.some.inj h with rfl
      refine ⟨rfl, _, by simp only [step, if_pos hphase, hwaiting]; rfl, ?_⟩
      have hless : ({ s with roster := s.roster.apply event, waiting }.report
          (s.roster.notices event)).work = waiting.length + 3 := work_of_following _ hphase
      rw [s.work_of_following hphase, hwaiting, hless]
      exact Nat.lt_succ_self _
  | nil =>
      cases hended : s.ended with
      | true =>
          rw [hwaiting, hended] at h
          rcases Option.some.inj h with rfl
          refine progress_of_leave s .seeEnd (some (.info "Stream event feed ended")) rfl
            (Or.inr hphase) ?_
          simp only [step, hphase, hwaiting, hended]
          rfl
      | false =>
          simp only [hwaiting, hended, List.isEmpty_nil, Bool.not_true, Bool.false_eq_true,
            if_false, Option.ite_none_right_eq_some, Option.some.injEq] at h
          rcases h with ⟨htold, rfl⟩
          exact progress_of_seeStop s htold (Or.inr hphase)

/-- The next move of a task is allowed, and there is less to do behind it. -/
theorem progress_of_nextMove (m : Manner) (s : Session) (move : Move)
    (h : nextMove m s = some move) : s.Progress move := by
  cases hphase : s.phase with
  | subscribing => exact progress_of_subscribing m s move hphase h
  | following => exact progress_of_following m s move hphase h
  | releasing =>
      rw [nextMove, hphase] at h
      rcases Option.some.inj h with rfl
      have hwork : s.work = 2 := by rw [work, hphase]
      cases m.releases with
      | true => exact ⟨rfl, s.finish [], if_pos hphase, hwork ▸ s.work_finish []⟩
      | false => exact ⟨rfl, s.finish _, if_pos hphase, hwork ▸ s.work_finish _⟩
  | finished =>
      rw [nextMove, hphase] at h
      simp only [Option.ite_none_right_eq_some, Option.some.injEq] at h
      rcases h with ⟨hhandle, rfl⟩
      -- Only the stop that waits is left, and with its return there is no work.
      refine ⟨rfl, { s with handle := .stopped }, ?_, ?_⟩
      · simp only [step, hhandle, hphase]
        rfl
      · have hnone : ({ s with handle := .stopped } : Session).work = 0 := work_of_finished _ hphase
        rw [s.work_of_finished hphase, if_pos hhandle, hnone]
        exact Nat.zero_lt_one

/-! ### Where the task rests -/

/-- The places where a task rests whose source is of some manner. -/
inductive Rests (m : Manner) (s : Session) : Prop where
  /-- The source never answers, and the task was not told to stop. -/
  | unanswered (hphase : s.phase = .subscribing) (hmanner : m.subscribes = none)
      (htold : s.told = false)
  /-- Nothing waits, and the task is to follow on. -/
  | following (hphase : s.phase = .following) (hwaiting : s.waiting = [])
      (hended : s.ended = false) (htold : s.told = false)
  /-- The task has finished, and no stop waits for that. -/
  | finished (hphase : s.phase = .finished) (hhandle : s.handle ≠ .stopping)

/-- Where there is no next move, the task rests. -/
theorem rests_of_nextMove (m : Manner) (s : Session) (h : nextMove m s = none) : Rests m s := by
  rw [nextMove] at h
  cases hphase : s.phase with
  | releasing =>
      rw [hphase] at h
      cases h
  | finished =>
      rw [hphase] at h
      exact Rests.finished hphase fun hhandle => nomatch (if_pos hhandle).symm.trans h
  | subscribing =>
      rw [hphase] at h
      cases hmanner : m.subscribes with
      | none =>
          simp only [hmanner, ite_eq_right_iff] at h
          exact Rests.unanswered hphase hmanner (eq_false_of_ne_true fun htold => nomatch h htold)
      | some subscribes =>
          rw [hmanner] at h
          cases subscribes <;> cases h
  | following =>
      -- It looks for three things in turn, and has a move for each of them.
      rw [hphase] at h
      cases hwaiting : s.waiting with
      | cons event waiting =>
          rw [hwaiting] at h
          cases h
      | nil =>
          cases hended : s.ended with
          | true =>
              rw [hwaiting, hended] at h
              cases h
          | false =>
              cases htold : s.told with
              | true =>
                  rw [hwaiting, hended, htold] at h
                  cases h
              | false => exact Rests.following hphase hwaiting hended htold

/-! ### Settling -/

/-- With fuel for all the work, settling is a run of moves of the task, and the task
    rests behind it. The induction is on the fuel, and each move leaves less work
    than there is fuel. -/
theorem settleIn_run (m : Manner) (fuel : Nat) (s : Session) (hfuel : s.work ≤ fuel) :
    ∃ moves, s.run moves = some (settleIn m fuel s) ∧ (∀ move ∈ moves, move.ofTask = true) ∧
      Rests m (settleIn m fuel s) := by
  induction fuel generalizing s with
  | zero =>
      refine ⟨[], rfl, nofun, rests_of_nextMove m s ?_⟩
      cases hnext : nextMove m s with
      | none => rfl
      | some move =>
          rcases progress_of_nextMove m s move hnext with ⟨_, s', _, hless⟩
          omega
  | succ fuel ih =>
      rw [settleIn]
      cases hnext : nextMove m s with
      | none => exact ⟨[], rfl, nofun, rests_of_nextMove m s hnext⟩
      | some move =>
          rcases progress_of_nextMove m s move hnext with ⟨htask, s', hstep, hless⟩
          rcases ih s' (by omega) with ⟨moves, hrun, hmoves, hrests⟩
          have hbind : (some move >>= s.step) = some s' := hstep
          rw [hbind]
          refine ⟨move :: moves, run_cons s s' _ move moves hstep hrun, fun other hother => ?_,
            hrests⟩
          rcases List.mem_cons.mp hother with rfl | hlater
          · exact htask
          · exact hmoves other hlater

/-- A session that was settled is one that the run could have led to. Between the
    two there are only moves of the task, and the task rests. -/
theorem settle_run (first : Roster) (room : Nat) (moves : List Move) (s : Session)
    (h : (start first room).run moves = some s) (m : Manner) :
    ∃ task, (start first room).run (moves ++ task) = some (s.settle m) ∧
      (∀ move ∈ task, move.ofTask = true) ∧ Rests m (s.settle m) := by
  rcases settleIn_run m _ s s.work_le with ⟨task, hrun, htask, hrests⟩
  refine ⟨task, ?_, htask, hrests⟩
  rw [run_append, h]
  exact hrun

/-- Offering events is a run of arrivals, of as many as were accepted. If there are
    more then the next one is not accepted. -/
theorem offer_run (s : Session) (events : List Event) :
    s.run ((events.take (s.offer events).2).map .arrive) = some (s.offer events).1 ∧
      ∀ event, events[(s.offer events).2]? = some event →
        (s.offer events).1.step (.arrive event) = none := by
  induction events generalizing s with
  | nil => exact ⟨rfl, nofun⟩
  | cons first events ih =>
      rw [offer]
      cases hstep : s.step (.arrive first) with
      | none =>
          refine ⟨rfl, fun event hevent => ?_⟩
          rcases Option.some.inj hevent with rfl
          exact hstep
      | some s' =>
          rcases ih s' with ⟨hrun, hnext⟩
          exact ⟨run_cons s s' _ (.arrive first) _ hstep hrun, hnext⟩

end Session

end Roster

end StreamRoster
