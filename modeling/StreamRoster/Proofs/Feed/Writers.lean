import Mathlib.Tactic.SplitIfs
import StreamRoster.Feed.Session

/-!
# Writers and Their Messages

What a writer puts on its connection of the messages that it is handed.

A writer may end long before it is told to close, and nobody notices until the
next message is handed over. So what is on the connection is not known from what
was handed over, and the two have to be told apart. `Accounted` compares a
writer with all that it was meant to be handed, whether that has reached it or
not. What was sent is always a start of it. As long as the writer runs the rest
is in its queue, and a close is among what was sent exactly if that has ended
the writer.

The close is the last message that anybody hands over. Hence a writer that has
ended behind a close has sent everything (`sent_of_closed`), and one that has
ended in any other way has not sent the close.

A release handles its writer in a fixed order. `Tends` are the rules by which it
goes on, and they say of each stage what the writer was meant to be handed until
then.

## Main definitions

* `Writer.Accounted`: How a writer stands to the messages meant for it.
* `Writer.Writes`: The rules by which a writer sends.
* `Writer.Sound`: Whether nothing has kept a writer from sending.
* `Duty.disturbs`: Whether a duty ends a writer too early.
* `Connection.script`: What there is to say on a connection.
* `Release.Tends`: The rules by which a release goes on.
* `Release.Spoken`: What was said on a connection that is released.

## Theorems

* `Writer.accounted_hand`, `Writer.accounted_writes`: What a writer does keeps
  the account.
* `Writer.sent_of_closed`: A writer that has closed has sent everything.
* `Connection.leave_eq`: What is left of a connection at the start of a release.
* `Release.tends_of_tend`: A release follows one of the rules.
* `Release.spoken_leave`, `Release.spoken_tends`: What is said during a release.
-/

namespace StreamRoster

namespace Feed

namespace Writer

/-! ### What was sent of what was meant to be -/

/-- How a writer stands to the messages meant for it. -/
structure Accounted (words : List ClientMessage) (w : Writer) : Prop where
  begun : w.sent <+: words
  running : w.phase = .running → w.sent ++ w.queue = words
  closed : w.phase = .closed ↔ .close ∈ w.sent

theorem accounted_start (m : ClientMessage) : Accounted [m] (start m) where
  begun := List.nil_prefix
  running _ := rfl
  closed := iff_of_false nofun List.not_mem_nil

/-- Whether it reaches the writer or not, one more message was meant for it. -/
theorem accounted_hand (words : List ClientMessage) (w : Writer) (m : ClientMessage)
    (h : Accounted words w) : Accounted (words ++ [m]) (w.hand m) := by
  have hbegun : w.sent <+: words ++ [m] := h.begun.trans (List.prefix_append words [m])
  by_cases hrunning : w.phase = .running
  · rw [hand, if_pos hrunning]
    refine ⟨hbegun, fun _ => ?_, h.closed⟩
    rw [← List.append_assoc, h.running hrunning]
  · rw [hand, if_neg hrunning]
    exact ⟨hbegun, fun hruns => absurd hruns hrunning, h.closed⟩

/-- A writer that ends without a close keeps what it has sent. -/
theorem accounted_quit (words : List ClientMessage) (w : Writer) (phase : Phase)
    (h : Accounted words w) (hrunning : w.phase = .running) (hphase : phase ≠ .running)
    (hclosed : phase ≠ .closed) : Accounted words (w.quit phase) where
  begun := h.begun
  running hruns := absurd hruns hphase
  closed := by
    refine iff_of_false hclosed fun hmem => ?_
    exact absurd (hrunning.symm.trans (h.closed.mpr hmem)) nofun

/-- The rules by which a writer sends the first message of its queue. -/
inductive Writes (w : Writer) : Sending → Writer → Prop where
  | rests (sending : Sending) (hnothing : w.phase = .running → w.queue = []) :
      Writes w sending w
  | sends (m : ClientMessage) (queue : List ClientMessage) (hrunning : w.phase = .running)
      (hqueue : w.queue = m :: queue) (hm : m ≠ .close) :
      Writes w .goesOut { w with queue, sent := w.sent ++ [m] }
  | closes (queue : List ClientMessage) (hrunning : w.phase = .running)
      (hqueue : w.queue = .close :: queue) :
      Writes w .goesOut { phase := .closed, queue := [], sent := w.sent ++ [.close] }
  | fails (hrunning : w.phase = .running) : Writes w .fails (w.quit .failed)
  | breaks (hrunning : w.phase = .running) : Writes w .breaksDown (w.quit .broken)

theorem writes_of_write (w : Writer) (sending : Sending) :
    Writes w sending (w.write sending).1 := by
  rw [write]
  split
  · rename_i m queue hrunning hqueue
    cases sending with
    | fails => exact Writes.fails hrunning
    | breaksDown => exact Writes.breaks hrunning
    | goesOut =>
        by_cases hm : m = .close
        · simp only [if_pos hm]
          rw [hm] at hqueue ⊢
          exact Writes.closes queue hrunning hqueue
        · simp only [if_neg hm]
          exact Writes.sends m queue hrunning hqueue hm
  · rename_i hrest
    refine Writes.rests sending fun hrunning => ?_
    cases hqueue : w.queue with
    | nil => rfl
    | cons m queue => exact absurd hqueue (hrest m queue hrunning)

/-- Sending keeps the account. The message moves from the queue to what was sent,
    or the queue is given up. -/
theorem accounted_writes (words : List ClientMessage) (w w' : Writer) (sending : Sending)
    (h : Accounted words w) (hwrites : Writes w sending w') : Accounted words w' := by
  cases hwrites with
  | rests => exact h
  | fails hrunning => exact accounted_quit words w .failed h hrunning nofun nofun
  | breaks hrunning => exact accounted_quit words w .broken h hrunning nofun nofun
  | sends m queue hrunning hqueue hm =>
      have hwords := h.running hrunning
      rw [hqueue, List.append_cons] at hwords
      refine ⟨⟨queue, hwords⟩, fun _ => hwords, iff_of_false ?_ fun hmem => ?_⟩
      · rw [hrunning]
        nofun
      · -- The close is neither the message nor among those before it.
        rcases List.mem_append.mp hmem with hsent | hlast
        · exact absurd (hrunning.symm.trans (h.closed.mpr hsent)) nofun
        · exact hm (List.mem_singleton.mp hlast).symm
  | closes queue hrunning hqueue =>
      have hwords := h.running hrunning
      rw [hqueue, List.append_cons] at hwords
      exact ⟨⟨queue, hwords⟩, nofun,
        iff_of_true rfl (List.mem_append_right w.sent List.mem_cons_self)⟩

/-- If the close is the last of the messages, then a writer that has ended behind
    a close has sent them all. -/
theorem sent_of_closed (front : List ClientMessage) (w : Writer)
    (h : Accounted (front ++ [.close]) w) (hfront : .close ∉ front) (hclosed : w.phase = .closed) :
    w.sent = front ++ [.close] := by
  rcases List.prefix_concat_iff.mp h.begun with hall | hbegun
  · exact hall
  · exact absurd (hbegun.subset (h.closed.mp hclosed)) hfront

/-! ### What is not taken back -/

theorem sent_hand (w : Writer) (m : ClientMessage) : (w.hand m).sent = w.sent := by
  rw [hand]
  split_ifs <;> rfl

theorem phase_hand (w : Writer) (m : ClientMessage) : (w.hand m).phase = w.phase := by
  rw [hand]
  split_ifs <;> rfl

theorem hand_of_ended (w : Writer) (m : ClientMessage) (h : w.phase ≠ .running) : w.hand m = w :=
  if_neg h

/-- What was sent stays sent. -/
theorem sent_prefix_writes (w w' : Writer) (sending : Sending) (h : Writes w sending w') :
    w.sent <+: w'.sent := by
  cases h with
  | rests | fails | breaks => exact List.prefix_rfl
  | sends | closes => exact List.prefix_append _ _

/-- A writer that has ended does nothing any more. -/
theorem eq_of_writes_of_ended (w w' : Writer) (sending : Sending) (h : Writes w sending w')
    (hended : w.phase ≠ .running) : w' = w := by
  cases h with
  | rests => rfl
  | sends _ _ hrunning | closes _ hrunning | fails hrunning | breaks hrunning =>
      exact absurd hrunning hended

/-- Whether nothing has kept a writer from sending: it runs, or it has closed. -/
def Sound (w : Writer) : Prop := w.phase = .running ∨ w.phase = .closed

/-- A writer that nothing has kept from sending still runs if no close was meant for
    it. -/
theorem running_of_sound (words : List ClientMessage) (w : Writer) (h : Accounted words w)
    (hwords : .close ∉ words) (hsound : w.Sound) : w.phase = .running := by
  refine hsound.resolve_right fun hclosed => ?_
  exact hwords (h.begun.subset (h.closed.mp hclosed))

theorem sound_writes (w w' : Writer) (h : Writes w .goesOut w') (hsound : w.Sound) : w'.Sound := by
  cases h with
  | rests => exact hsound
  | sends _ _ hrunning => exact Or.inl hrunning
  | closes => exact Or.inr rfl

end Writer

/-- Whether a duty ends a writer before its close, if it runs: sending fails or
    breaks down, or the writer is given up. -/
def Duty.disturbs : Duty → Bool
  | .write .fails | .write .breaksDown | .expire => true
  | .write .goesOut | .proceed => false

/-! ### Releases -/

/-- What there is to say on a connection, from its opening to its release. A
    call is cancelled if one was recorded. -/
def Connection.script (inst : String) (c : Connection) : List ClientMessage :=
  .openCall c.id inst :: (c.call.toList.map ClientMessage.cancel ++ [.close])

/-- What is left of a connection at the start of its release. -/
theorem Connection.leave_eq (c : Connection) :
    c.leave.1 =
      ⟨{ c with
        reading := false
        writer := (c.call.toList.map ClientMessage.cancel).foldl Writer.hand c.writer },
        .leaving⟩ := by
  rw [leave]
  cases c.call <;> rfl

namespace Release

/-- What was meant for the writer of a connection by a stage of its release. -/
def words (inst : String) (r : Release) : List ClientMessage :=
  .openCall r.connection.id inst :: (r.connection.call.toList.map ClientMessage.cancel ++
    match r.stage with
    | .leaving => []
    | .flushing | .finished => [.close])

/-- The rules by which a release goes on. -/
inductive Tends (r : Release) : Duty → Release → Prop where
  | writes (sending : Sending) (writer : Writer)
      (hwrites : Writer.Writes r.connection.writer sending writer) :
      Tends r (.write sending) { r with connection := { r.connection with writer } }
  | closes (hstage : r.stage = .leaving) :
      Tends r .proceed
        ⟨{ r.connection with writer := r.connection.writer.hand .close }, .flushing⟩
  | waits (hstage : r.stage = .flushing) (hrunning : r.connection.writer.phase = .running) :
      Tends r .proceed r
  | ends (hstage : r.stage = .flushing) (hended : r.connection.writer.phase ≠ .running) :
      Tends r .proceed { r with stage := .finished }
  | isFinished (hstage : r.stage = .finished) : Tends r .proceed r
  | expires (hstage : r.stage = .flushing) (hrunning : r.connection.writer.phase = .running) :
      Tends r .expire
        ⟨{ r.connection with writer := r.connection.writer.quit .aborted }, .finished⟩
  | stays (hpatient : ¬(r.stage = .flushing ∧ r.connection.writer.phase = .running)) :
      Tends r .expire r

theorem tends_of_tend (r : Release) (duty : Duty) : Tends r duty (r.tend duty).1 := by
  cases duty with
  | write sending => exact Tends.writes sending _ (Writer.writes_of_write _ sending)
  | proceed =>
      rw [tend, proceed]
      cases hstage : r.stage with
      | leaving => exact Tends.closes hstage
      | finished => exact Tends.isFinished hstage
      | flushing =>
          -- The writer is waited for as long as it runs.
          cases hphase : r.connection.writer.phase with
          | running => exact Tends.waits hstage hphase
          | closed | failed | broken | aborted =>
              exact Tends.ends hstage fun h => absurd (hphase.symm.trans h) nofun
  | expire =>
      rw [tend, expire]
      split_ifs with h
      · exact Tends.expires h.1 h.2
      · exact Tends.stays h

/-- What was said on a connection that is released, and how far the release is
    with it. -/
structure Spoken (inst : String) (r : Release) : Prop where
  accounted : r.connection.writer.Accounted (r.words inst)
  finished : r.stage = .finished → r.connection.writer.phase ≠ .running

/-- Taking leave of a connection on which there was only the opening to say. -/
theorem spoken_leave (inst : String) (c : Connection)
    (h : c.writer.Accounted [.openCall c.id inst]) : c.leave.1.Spoken inst := by
  rw [Connection.leave_eq]
  refine ⟨?_, nofun⟩
  rw [words, List.append_nil]
  cases c.call with
  | none => exact h
  | some call => exact Writer.accounted_hand _ c.writer (.cancel call) h

/-- Whatever a release does next, it keeps to what there is to say. -/
theorem spoken_tends (inst : String) (r r' : Release) (duty : Duty) (h : r.Spoken inst)
    (htends : r.Tends duty r') : r'.Spoken inst := by
  cases htends with
  | waits | isFinished | stays => exact h
  | writes sending writer hwrites =>
      -- Behind the end of a release its writer has ended, and sends nothing more.
      refine ⟨Writer.accounted_writes _ _ writer sending h.accounted hwrites, fun hfinished => ?_⟩
      rw [Writer.eq_of_writes_of_ended _ writer sending hwrites (h.finished hfinished)]
      exact h.finished hfinished
  | closes hstage =>
      refine ⟨?_, nofun⟩
      have hclose := Writer.accounted_hand _ _ .close h.accounted
      rw [words, hstage, List.append_nil] at hclose
      exact hclose
  | ends hstage hended =>
      refine ⟨?_, fun _ => hended⟩
      have haccounted := h.accounted
      rw [words, hstage] at haccounted
      exact haccounted
  | expires hstage hrunning =>
      refine ⟨?_, nofun⟩
      have haccounted := Writer.accounted_quit _ _ .aborted h.accounted hrunning nofun nofun
      rw [words, hstage] at haccounted
      exact haccounted

/-- What is on a connection that is released is a start of the script. -/
theorem sent_prefix_script (inst : String) (r : Release) (h : r.Spoken inst) :
    r.connection.sent <+: r.connection.script inst := by
  refine h.accounted.begun.trans ?_
  rw [words, Connection.script]
  cases r.stage with
  | leaving => exact ⟨[.close], by rw [List.append_nil, List.cons_append]⟩
  | flushing | finished => exact List.prefix_rfl

/-- It is all of the script exactly if the writer has ended behind the close. -/
theorem closed_iff_sent (inst : String) (r : Release) (h : r.Spoken inst) :
    r.connection.writer.phase = .closed ↔ r.connection.sent = r.connection.script inst := by
  have hfront : ClientMessage.close ∉ (.openCall r.connection.id inst ::
      r.connection.call.toList.map ClientMessage.cancel : List ClientMessage) := by
    cases r.connection.call <;> simp
  refine ⟨fun hclosed => ?_, fun hall => ?_⟩
  · have haccounted := h.accounted
    rw [words] at haccounted
    cases hstage : r.stage with
    | leaving =>
        rw [hstage, List.append_nil] at haccounted
        exact absurd (haccounted.begun.subset (haccounted.closed.mp hclosed)) hfront
    | flushing | finished =>
        rw [hstage] at haccounted
        exact Writer.sent_of_closed _ _ haccounted hfront hclosed
  · refine h.accounted.closed.mpr ?_
    rw [← Connection.sent, hall, Connection.script]
    exact List.mem_cons_of_mem _ (List.mem_append_right _ List.mem_cons_self)

end Release

end Feed

end StreamRoster
