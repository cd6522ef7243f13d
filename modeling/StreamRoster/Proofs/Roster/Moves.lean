import Mathlib.Data.List.Induction
import StreamRoster.Roster.Session

/-!
# What a Move Changes

A session has a dozen moves, and each of them changes little. `Leads` writes
the moves down as rules, one constructor for each way a move can go, with
what has to hold before it. The lines that are reported are left open, since
no rule depends on them. `leads_of_step` is the one place where the step
function is taken apart; everything else is read off the rules.

Two readings of the rules serve the arguments about sessions. `phase_of_step`
follows the task: a move leaves the phase alone or takes the task one phase
on, and only leaving for the release counts a release. `Phase.releases` says
on which side of that a phase lies, and it never falls. `feed_of_step`
follows the events: only an arrival adds one to those that wait, only a take
moves one on into the roster, and leaving gives up the rest.

A run is a list of moves, and what it did is read off that list. So the
induction along a run, `run_induct`, carries the moves made so far next to
the session they led to, and extends both at the end.

## Main definitions

* `Phase.releases`: How often a task in a phase has released.
* `Move.event?`: The event a move brings.
* `Leads`: The rules by which a session moves.

## Theorems

* `Phase.releases_eq_zero_iff`: The phases in front of the release.
* `leads_of_step`: A step follows one of the rules.
* `step_seeStop`: A task that was told to stop may leave.
* `phase_of_step`: What a move does to the phase and the releases.
* `releases_mono_of_step`: No move leads back in front of the release.
* `feed_of_step`: What a move does to the waiting events and the roster.
* `held_of_step`: A handle is still held only if it always was.
* `run_append`: A run in two parts.
* `run_induct`: Induction along a run, with the moves made so far.
-/

namespace StreamRoster

namespace Roster

/-- How often a task in a phase has released its subscription. -/
def Phase.releases : Phase → Nat
  | .subscribing | .following => 0
  | .releasing | .finished => 1

theorem Phase.releases_le_one (p : Phase) : p.releases ≤ 1 := by
  cases p <;> decide

/-- The phases in front of the release are those in which the feed is open. -/
theorem Phase.releases_eq_zero_iff (p : Phase) :
    p.releases = 0 ↔ p = .subscribing ∨ p = .following := by
  cases p <;> decide

/-- The event a move brings. -/
def Move.event? : Move → Option Event
  | .arrive event => some event
  | _ => none

namespace Session

/-- The rules by which a session moves, whatever is reported on the way. -/
inductive Leads (s : Session) : Move → Session → Prop where
  | subscribe (lines : List Log.Line) (hphase : s.phase = .subscribing) :
      Leads s .subscribe ({ s with phase := .following }.report lines)
  | refuse (line : Option Log.Line) (hphase : s.phase = .subscribing) :
      Leads s .refuse (s.leave line)
  | arrive (event : Event) (hphase : s.phase = .subscribing ∨ s.phase = .following)
      (hended : s.ended = false) (hroom : s.waiting.length < s.room) :
      Leads s (.arrive event) { s with waiting := s.waiting ++ [event] }
  | close (hended : s.ended = false) : Leads s .close { s with ended := true }
  | take (event : Event) (rest : List Event) (lines : List Log.Line)
      (hphase : s.phase = .following) (hwaiting : s.waiting = event :: rest) :
      Leads s .take ({ s with roster := s.roster.apply event, waiting := rest }.report lines)
  | seeEnd (line : Option Log.Line) (hphase : s.phase = .following)
      (hwaiting : s.waiting = []) (hended : s.ended = true) : Leads s .seeEnd (s.leave line)
  | seeStop (line : Option Log.Line) (htold : s.told = true)
      (hphase : s.phase = .subscribing ∨ s.phase = .following) : Leads s .seeStop (s.leave line)
  | release (lines : List Log.Line) (hphase : s.phase = .releasing) :
      Leads s .release (s.finish lines)
  | failRelease (lines : List Log.Line) (hphase : s.phase = .releasing) :
      Leads s .failRelease (s.finish lines)
  | stop (hhandle : s.handle = .held) : Leads s .stop { s with handle := .stopping, told := true }
  | stopAgain (hhandle : s.handle = .stopping ∨ s.handle = .stopped) : Leads s .stop s
  | returnStop (hhandle : s.handle = .stopping) (hphase : s.phase = .finished) :
      Leads s .returnStop { s with handle := .stopped }
  | drop (hhandle : s.handle ≠ .dropped) :
      Leads s .drop { s with handle := .dropped, told := true }

theorem leads_of_step (s s' : Session) (m : Move) (h : s.step m = some s') : Leads s m s' := by
  cases m with
  | subscribe =>
      simp only [step, Option.ite_none_right_eq_some, Option.some.injEq] at h
      rcases h with ⟨hphase, rfl⟩
      exact Leads.subscribe _ hphase
  | refuse =>
      simp only [step, Option.ite_none_right_eq_some, Option.some.injEq] at h
      rcases h with ⟨hphase, rfl⟩
      exact Leads.refuse _ hphase
  | arrive event =>
      simp only [step, accepts, Option.ite_none_right_eq_some, Option.some.injEq,
        Bool.and_eq_true, Bool.or_eq_true, Bool.not_eq_true', decide_eq_true_eq] at h
      rcases h with ⟨⟨⟨hphase, hended⟩, hroom⟩, rfl⟩
      exact Leads.arrive event hphase hended hroom
  | close =>
      simp only [step, Option.ite_none_left_eq_some, Option.some.injEq] at h
      rcases h with ⟨hended, rfl⟩
      exact Leads.close (eq_false_of_ne_true hended)
  | take =>
      simp only [step, Option.ite_none_right_eq_some] at h
      rcases h with ⟨hphase, h⟩
      -- Nothing to take is not a take of nothing: the move is not allowed.
      cases hwaiting : s.waiting with
      | nil =>
          rw [hwaiting] at h
          exact absurd h (by simp only [reduceCtorEq, not_false_eq_true])
      | cons event rest =>
          rw [hwaiting] at h
          rcases Option.some.inj h with rfl
          exact Leads.take event rest _ hphase hwaiting
  | seeEnd =>
      simp only [step, Option.ite_none_right_eq_some, Option.some.injEq, Bool.and_eq_true,
        decide_eq_true_eq, List.isEmpty_iff] at h
      rcases h with ⟨⟨⟨hphase, hwaiting⟩, hended⟩, rfl⟩
      exact Leads.seeEnd _ hphase hwaiting hended
  | seeStop =>
      simp only [step, Bool.not_eq_true', Option.ite_none_left_eq_some,
        Bool.not_eq_false] at h
      rcases h with ⟨htold, h⟩
      cases hphase : s.phase with
      | subscribing =>
          rw [hphase] at h
          rcases Option.some.inj h with rfl
          exact Leads.seeStop _ htold (Or.inl hphase)
      | following =>
          rw [hphase] at h
          rcases Option.some.inj h with rfl
          exact Leads.seeStop _ htold (Or.inr hphase)
      | releasing =>
          rw [hphase] at h
          exact absurd h (by simp only [reduceCtorEq, not_false_eq_true])
      | finished =>
          rw [hphase] at h
          exact absurd h (by simp only [reduceCtorEq, not_false_eq_true])
  | release =>
      simp only [step, Option.ite_none_right_eq_some, Option.some.injEq] at h
      rcases h with ⟨hphase, rfl⟩
      exact Leads.release _ hphase
  | failRelease =>
      simp only [step, Option.ite_none_right_eq_some, Option.some.injEq] at h
      rcases h with ⟨hphase, rfl⟩
      exact Leads.failRelease _ hphase
  | stop =>
      simp only [step] at h
      -- Only the first stop tells the task; one that follows leads nowhere else.
      cases hhandle : s.handle with
      | held =>
          rw [hhandle] at h
          rcases Option.some.inj h with rfl
          exact Leads.stop hhandle
      | stopping =>
          rw [hhandle] at h
          rcases Option.some.inj h with rfl
          exact Leads.stopAgain (Or.inl hhandle)
      | stopped =>
          rw [hhandle] at h
          rcases Option.some.inj h with rfl
          exact Leads.stopAgain (Or.inr hhandle)
      | dropped =>
          rw [hhandle] at h
          exact absurd h (by simp only [reduceCtorEq, not_false_eq_true])
  | returnStop =>
      simp only [step, Option.ite_none_right_eq_some, Option.some.injEq, Bool.and_eq_true,
        decide_eq_true_eq] at h
      rcases h with ⟨⟨hhandle, hphase⟩, rfl⟩
      exact Leads.returnStop hhandle hphase
  | drop =>
      simp only [step, Option.ite_none_left_eq_some, Option.some.injEq] at h
      rcases h with ⟨hhandle, rfl⟩
      exact Leads.drop hhandle

/-- A task that was told to stop may leave, wherever it is in front of the
    release. -/
theorem step_seeStop (s : Session) (htold : s.told = true)
    (hphase : s.phase = .subscribing ∨ s.phase = .following) :
    ∃ line, s.step .seeStop = some (s.leave line) := by
  rcases hphase with hphase | hphase
  · exact ⟨_, by rw [step, htold, hphase]; rfl⟩
  · exact ⟨_, by rw [step, htold, hphase]; rfl⟩

/-- What a move does to the phase and the count of releases. The count goes
    up exactly where the task leaves for the release, and it leaves from the
    two phases in front of it only. -/
theorem phase_of_step (s s' : Session) (m : Move) (h : s.step m = some s') :
    (s'.phase = s.phase ∧ s'.releases = s.releases) ∨
      (s.phase = .subscribing ∧ s'.phase = .following ∧ s'.releases = s.releases) ∨
      ((s.phase = .subscribing ∨ s.phase = .following) ∧ s'.phase = .releasing ∧
        s'.releases = s.releases + 1) ∨
      (s.phase = .releasing ∧ s'.phase = .finished ∧ s'.releases = s.releases ∧
        (m = .release ∨ m = .failRelease)) := by
  cases leads_of_step s s' m h with
  | subscribe lines hphase => exact Or.inr (Or.inl ⟨hphase, rfl, rfl⟩)
  | refuse line hphase => exact Or.inr (Or.inr (Or.inl ⟨Or.inl hphase, rfl, rfl⟩))
  | seeEnd line hphase => exact Or.inr (Or.inr (Or.inl ⟨Or.inr hphase, rfl, rfl⟩))
  | seeStop line htold hphase => exact Or.inr (Or.inr (Or.inl ⟨hphase, rfl, rfl⟩))
  | release lines hphase => exact Or.inr (Or.inr (Or.inr ⟨hphase, rfl, rfl, Or.inl rfl⟩))
  | failRelease lines hphase => exact Or.inr (Or.inr (Or.inr ⟨hphase, rfl, rfl, Or.inr rfl⟩))
  | arrive | close | take | stop | stopAgain | returnStop | drop => exact Or.inl ⟨rfl, rfl⟩

/-- No move leads back in front of the release. -/
theorem releases_mono_of_step (s s' : Session) (m : Move) (h : s.step m = some s') :
    s.phase.releases ≤ s'.phase.releases := by
  rcases phase_of_step s s' m h with ⟨hphase, _⟩ | ⟨hfrom, _⟩ | ⟨_, hto, _⟩ | ⟨_, hto, _⟩
  · exact Nat.le_of_eq (congrArg Phase.releases hphase.symm)
  · rw [hfrom]
    exact Nat.zero_le _
  · rw [hto]
    exact Phase.releases_le_one _
  · rw [hto]
    exact Phase.releases_le_one _

/-- What a move does to the waiting events and the roster. A take moves the
    first waiting event into the roster, an arrival adds one behind the last,
    and no other move touches the roster or brings an event. -/
theorem feed_of_step (s s' : Session) (m : Move) (h : s.step m = some s') :
    (m = .take ∧ s.phase = .following ∧
        ∃ event, s.waiting = event :: s'.waiting ∧ s'.roster = s.roster.apply event) ∨
      (∃ event, m = .arrive event ∧ s.phase.releases = 0 ∧
        s'.waiting = s.waiting ++ [event] ∧ s'.roster = s.roster) ∨
      (m ≠ .take ∧ m.event? = none ∧ s'.roster = s.roster ∧
        (s'.phase.releases = 0 → s'.waiting = s.waiting) ∧
        (m = .seeEnd → s.phase = .following ∧ s'.phase = .releasing ∧ s.waiting = [])) := by
  cases leads_of_step s s' m h with
  | take event rest lines hphase hwaiting => exact Or.inl ⟨rfl, hphase, event, hwaiting, rfl⟩
  | arrive event hphase hended hroom =>
      have hreleases : s.phase.releases = 0 := (Phase.releases_eq_zero_iff s.phase).mpr hphase
      exact Or.inr (Or.inl ⟨event, rfl, hreleases, rfl, rfl⟩)
  | seeEnd line hphase hwaiting =>
      exact Or.inr (Or.inr ⟨nofun, rfl, rfl, nofun, fun _ => ⟨hphase, rfl, hwaiting⟩⟩)
  -- Leaving empties the feed, but then the task is no longer in front of the release.
  | refuse | seeStop => exact Or.inr (Or.inr ⟨nofun, rfl, rfl, nofun, nofun⟩)
  | subscribe | close | release | failRelease | stop | stopAgain | returnStop | drop =>
      exact Or.inr (Or.inr ⟨nofun, rfl, rfl, fun _ => rfl, nofun⟩)

/-- A handle is still held only if it was held before and the move is no
    stop. -/
theorem held_of_step (s s' : Session) (m : Move) (h : s.step m = some s')
    (hheld : s'.handle = .held) : s.handle = .held ∧ m ≠ .stop := by
  cases leads_of_step s s' m h with
  | stopAgain hhandle =>
      rcases hhandle with hstopping | hstopped
      · exact absurd (hheld.symm.trans hstopping) nofun
      · exact absurd (hheld.symm.trans hstopped) nofun
  | stop | returnStop | drop =>
      exact absurd hheld (by simp only [reduceCtorEq, not_false_eq_true])
  | subscribe | refuse | arrive | close | take | seeEnd | seeStop | release | failRelease =>
      exact ⟨hheld, nofun⟩

/-- A run in two parts goes through the session between them. -/
theorem run_append (s : Session) (moves later : List Move) :
    s.run (moves ++ later) = (s.run moves).bind fun t => t.run later :=
  List.foldlM_append

/-- A run that begins with a step. -/
theorem run_cons (s t u : Session) (m : Move) (moves : List Move) (hstep : s.step m = some t)
    (hrun : t.run moves = some u) : s.run (m :: moves) = some u := by
  rw [run, List.foldlM_cons, hstep]
  exact hrun

theorem run_singleton (s : Session) (m : Move) : s.run [m] = s.step m := by
  rw [run, List.foldlM_cons]
  cases s.step m with
  | none => rfl
  | some s' => rfl

/-- Induction along a run. The moves made so far stand next to the session
    they led to, because what is said about a session may depend on how it
    was reached. -/
theorem run_induct (P : List Move → Session → Prop) (s : Session) (hstart : P [] s)
    (hstep : ∀ moves m t t', P moves t → t.step m = some t' → P (moves ++ [m]) t')
    (moves : List Move) (t : Session) (h : s.run moves = some t) : P moves t := by
  induction moves using List.reverseRecOn generalizing t with
  | nil =>
      rcases Option.some.inj h with rfl
      exact hstart
  | append_singleton moves m ih =>
      rw [run_append, Option.bind_eq_some_iff] at h
      rcases h with ⟨u, hu, hm⟩
      rw [run_singleton] at hm
      exact hstep moves m u t (ih u hu) hm

end Session

end Roster

end StreamRoster
