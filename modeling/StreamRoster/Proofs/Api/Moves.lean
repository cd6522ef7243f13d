import Mathlib.Data.List.Induction
import StreamRoster.Api.Session

/-!
# What a Move Does to a Client

The steps of the publisher, of the client and of two tasks go in any order, and
`Leads` writes them down as rules, one constructor for each way a step can go,
with what has to hold before it. `leads_of_step` is the one place where the
step function is taken apart.

The two tasks share the queue and nothing else that they change. `pushed` and
`answers` are the two halves of the queue, and a rule adds to one of them at
most.

What was published and what arrived is read off the moves. As with the sessions
of a roster, the induction along a run, `run_induct`, carries the moves made so
far next to the client they led to.

## Main definitions

* `pushed`, `answers`: The lists and the answers that were queued.
* `published`, `sent`: The lists that a run publishes, and what arrives in it.
* `Leads`: The rules by which a client moves.

## Theorems

* `leads_of_step`: A step follows one of the rules.
* `listing_of_step`: The current list is changed by publishing alone.
* `sending_of_step`: What was cut off is not sent again.
* `over_of_step`: The end of the other tasks is not taken back.
* `run_append`: A run in two parts.
* `run_induct`: Induction along a run, with the moves made so far.
* `queue_prefix_run`: What was queued stays queued.
-/

namespace StreamRoster

namespace Client

/-- The list that is sent. -/
def Outgoing.listing? : Outgoing → Option (Publication (List Item))
  | .listing p => some p
  | .answer _ => none

/-- The answer that is sent. -/
def Outgoing.answer? : Outgoing → Option (Response Json.Tree)
  | .listing _ => none
  | .answer response => some response

/-- Whether nothing is read behind what arrives. -/
def Incoming.ends : Incoming → Bool
  | .close | .lost => true
  | .text _ | .other => false

/-- The text that arrives. -/
def Incoming.text? : Incoming → Option String
  | .text frame => some frame
  | .other | .close | .lost => none

/-- The list that a move publishes. -/
def Move.published? : Move → Option (List Item)
  | .publish items => some items
  | _ => none

/-- What a move lets arrive. -/
def Move.sent? : Move → Option Incoming
  | .send incoming => some incoming
  | _ => none

/-- The lists that were queued, in order. -/
def pushed (c : Client) : List (Publication (List Item)) := c.queue.filterMap Outgoing.listing?

/-- The answers that were queued, in order. -/
def answers (c : Client) : List (Response Json.Tree) := c.queue.filterMap Outgoing.answer?

/-- Queueing adds to the lists what is queued, if that is a list. -/
theorem pushed_of_queue (c c' : Client) (out : Outgoing) (h : c'.queue = c.queue ++ [out]) :
    c'.pushed = c.pushed ++ out.listing?.toList := by
  rw [pushed, h, List.filterMap_append]
  cases out <;> rfl

/-- Queueing adds to the answers what is queued, if that is an answer. -/
theorem answers_of_queue (c c' : Client) (out : Outgoing) (h : c'.queue = c.queue ++ [out]) :
    c'.answers = c.answers ++ out.answer?.toList := by
  rw [answers, h, List.filterMap_append]
  cases out <;> rfl

/-- The lists that are published in a run, in order. -/
def published (moves : List Move) : List (List Item) := moves.filterMap Move.published?

/-- What arrives in a run, in order. -/
def sent (moves : List Move) : List Incoming := moves.filterMap Move.sent?

theorem published_concat (moves : List Move) (m : Move) :
    published (moves ++ [m]) = published moves ++ m.published?.toList := by
  rw [published, List.filterMap_append]
  cases m <;> rfl

/-- A move that publishes nothing adds nothing to what was published. -/
theorem published_of_none (moves : List Move) (m : Move) (hm : m.published? = none) :
    published (moves ++ [m]) = published moves := by
  rw [published_concat, hm]
  exact List.append_nil _

theorem sent_concat (moves : List Move) (m : Move) :
    sent (moves ++ [m]) = sent moves ++ m.sent?.toList := by
  rw [sent, List.filterMap_append]
  cases m <;> rfl

/-- The rules by which a client moves. -/
inductive Leads (c : Client) : Move → Client → Prop where
  | publish (items : List Item) (hpublishing : c.publishing = true) :
      Leads c (.publish items) { c with listing := c.listing.publish items }
  | closePublisher (hpublishing : c.publishing = true) :
      Leads c .closePublisher { c with publishing := false }
  | read (hpushing : c.pushing = .starting ∨ c.pushing = .woken) :
      Leads c .read { c with pushing := .holding c.listing, seen := c.listing.version }
  | push (list : Publication (List Item)) (hpushing : c.pushing = .holding list)
      (hsending : c.sending = true) :
      Leads c .push { c with queue := c.queue ++ [.listing list], pushing := .waiting }
  | failPush (list : Publication (List Item)) (hpushing : c.pushing = .holding list)
      (hsending : c.sending = false) : Leads c .push { c with pushing := .dropped }
  | wake (hpushing : c.pushing = .waiting) (hnews : c.seen ≠ c.listing.version) :
      Leads c .wake { c with pushing := .woken, seen := c.listing.version }
  | finish (hpushing : c.pushing = .waiting) (hnews : c.seen = c.listing.version)
      (hpublishing : c.publishing = false) : Leads c .finish { c with pushing := .finished }
  | dropPushing (hpushing : c.pushing = .starting ∨ c.pushing = .waiting)
      (hover : c.answering = .finished ∨ c.sending = false) :
      Leads c .dropPushing { c with pushing := .dropped }
  | send (incoming : Incoming) : Leads c (.send incoming) { c with inbox := c.inbox ++ [incoming] }
  | receiveText (frame : String) (inbox : List Incoming) (hanswering : c.answering = .listening)
      (hinbox : c.inbox = .text frame :: inbox) :
      Leads c .receive { c with inbox, answering := .handling frame }
  | receiveOther (inbox : List Incoming) (hanswering : c.answering = .listening)
      (hinbox : c.inbox = .other :: inbox) :
      Leads c .receive { c with inbox, answering := .listening }
  | receiveEnd (incoming : Incoming) (hends : incoming.ends = true) (inbox : List Incoming)
      (hanswering : c.answering = .listening) (hinbox : c.inbox = incoming :: inbox) :
      Leads c .receive { c with inbox, answering := .finished }
  | handle (frame : String) (hanswering : c.answering = .handling frame) :
      Leads c .handle
        { c with answering := .answering (Request.response c.listing.value frame) }
  | answer (response : Response Json.Tree) (hanswering : c.answering = .answering response)
      (hsending : c.sending = true) :
      Leads c .answer { c with queue := c.queue ++ [.answer response], answering := .listening }
  | loseAnswer (response : Response Json.Tree) (hanswering : c.answering = .answering response)
      (hsending : c.sending = false) : Leads c .answer { c with answering := .listening }
  | dropAnswering (hanswering : c.answering = .listening) (hsending : c.sending = false) :
      Leads c .dropAnswering { c with answering := .finished }
  | cutOff (hsending : c.sending = true) : Leads c .cutOff { c with sending := false }

theorem leads_of_push (c c' : Client) (h : c.step .push = some c') : Leads c .push c' := by
  rw [step] at h
  cases hpushing : c.pushing with
  | starting | waiting | woken | finished | dropped =>
      rw [hpushing] at h
      exact absurd h nofun
  | holding list =>
      rw [hpushing] at h
      rcases Option.some.inj h with rfl
      rw [push]
      by_cases hsending : c.sending = true
      · rw [if_pos hsending]
        exact Leads.push list hpushing hsending
      · rw [if_neg hsending]
        exact Leads.failPush list hpushing (eq_false_of_ne_true hsending)

theorem leads_of_receive (c c' : Client) (h : c.step .receive = some c') :
    Leads c .receive c' := by
  rw [step] at h
  cases hanswering : c.answering with
  | handling | answering | finished =>
      rw [hanswering] at h
      exact absurd h nofun
  | listening =>
      rw [hanswering] at h
      cases hinbox : c.inbox with
      | nil =>
          rw [hinbox] at h
          exact absurd h nofun
      | cons incoming inbox =>
          rw [hinbox] at h
          rcases Option.some.inj h with rfl
          cases incoming with
          | text frame => exact Leads.receiveText frame inbox hanswering hinbox
          | other => exact Leads.receiveOther inbox hanswering hinbox
          | close => exact Leads.receiveEnd .close rfl inbox hanswering hinbox
          | lost => exact Leads.receiveEnd .lost rfl inbox hanswering hinbox

theorem leads_of_answer (c c' : Client) (h : c.step .answer = some c') : Leads c .answer c' := by
  rw [step] at h
  cases hanswering : c.answering with
  | listening | handling | finished =>
      rw [hanswering] at h
      exact absurd h nofun
  | answering response =>
      rw [hanswering] at h
      rcases Option.some.inj h with rfl
      rw [answer]
      by_cases hsending : c.sending = true
      · rw [if_pos hsending]
        exact Leads.answer response hanswering hsending
      · rw [if_neg hsending]
        exact Leads.loseAnswer response hanswering (eq_false_of_ne_true hsending)

theorem Pushing.rests_iff (pushing : Pushing) :
    pushing.rests = true ↔ pushing = .starting ∨ pushing = .waiting := by
  cases pushing with
  | starting => exact iff_of_true rfl (Or.inl rfl)
  | waiting => exact iff_of_true rfl (Or.inr rfl)
  | holding | woken | finished | dropped => exact iff_of_false nofun (by rintro (h | h) <;> cases h)

theorem Answering.isOver_iff (answering : Answering) :
    answering.isOver = true ↔ answering = .finished := by
  cases answering with
  | finished => exact iff_of_true rfl rfl
  | listening | handling | answering => exact iff_of_false nofun nofun

theorem leads_of_step (c c' : Client) (m : Move) (h : c.step m = some c') : Leads c m c' := by
  cases m with
  | push => exact leads_of_push c c' h
  | receive => exact leads_of_receive c c' h
  | answer => exact leads_of_answer c c' h
  | publish items =>
      simp only [step, Option.ite_none_right_eq_some, Option.some.injEq] at h
      rcases h with ⟨hpublishing, rfl⟩
      exact Leads.publish items hpublishing
  | closePublisher =>
      simp only [step, Option.ite_none_right_eq_some, Option.some.injEq] at h
      rcases h with ⟨hpublishing, rfl⟩
      exact Leads.closePublisher hpublishing
  | read =>
      -- A list is read at the start, or once the task was told of one.
      rw [step] at h
      cases hpushing : c.pushing with
      | starting =>
          rw [hpushing] at h
          rcases Option.some.inj h with rfl
          exact Leads.read (Or.inl hpushing)
      | woken =>
          rw [hpushing] at h
          rcases Option.some.inj h with rfl
          exact Leads.read (Or.inr hpushing)
      | holding | waiting | finished | dropped =>
          rw [hpushing] at h
          exact absurd h nofun
  | wake =>
      -- Waiting ends with a list that was not seen, or with the publisher.
      simp only [step, hasNews, Option.ite_none_right_eq_some, Option.some.injEq,
        Bool.and_eq_true, decide_eq_true_eq] at h
      rcases h with ⟨⟨hpushing, hnews⟩, rfl⟩
      exact Leads.wake hpushing hnews
  | finish =>
      simp only [step, hasNews, Option.ite_none_right_eq_some, Option.some.injEq,
        Bool.and_eq_true, Bool.not_eq_true', decide_eq_true_eq, decide_eq_false_iff_not,
        not_not] at h
      rcases h with ⟨⟨⟨hpushing, hnews⟩, hpublishing⟩, rfl⟩
      exact Leads.finish hpushing hnews hpublishing
  | dropPushing =>
      -- From outside, a task is ended only where it rests.
      simp only [step, Option.ite_none_right_eq_some, Option.some.injEq, Bool.and_eq_true,
        Bool.or_eq_true, Bool.not_eq_true', Pushing.rests_iff, Answering.isOver_iff] at h
      rcases h with ⟨⟨hpushing, hover⟩, rfl⟩
      exact Leads.dropPushing hpushing hover
  | send incoming =>
      rcases Option.some.inj h with rfl
      exact Leads.send incoming
  | handle =>
      rw [step] at h
      cases hanswering : c.answering with
      | handling frame =>
          rw [hanswering] at h
          rcases Option.some.inj h with rfl
          exact Leads.handle frame hanswering
      | listening | answering | finished =>
          rw [hanswering] at h
          exact absurd h nofun
  | dropAnswering =>
      rw [step] at h
      cases hanswering : c.answering with
      | listening =>
          simp only [hanswering, Option.ite_none_left_eq_some, Option.some.injEq] at h
          rcases h with ⟨hsending, rfl⟩
          exact Leads.dropAnswering hanswering (eq_false_of_ne_true hsending)
      | handling | answering | finished =>
          rw [hanswering] at h
          exact absurd h nofun
  | cutOff =>
      simp only [step, Option.ite_none_right_eq_some, Option.some.injEq] at h
      rcases h with ⟨hsending, rfl⟩
      exact Leads.cutOff hsending

/-- The current list is changed by publishing alone. -/
theorem listing_of_step (c c' : Client) (m : Move) (h : c.step m = some c') :
    c'.listing = m.published?.toList.foldl Publication.publish c.listing := by
  cases leads_of_step c c' m h with
  | publish | closePublisher | read | push | failPush | wake | finish | dropPushing | send
  | receiveText | receiveOther | receiveEnd | handle | answer | loseAnswer | dropAnswering
  | cutOff => rfl

/-- What was cut off is not sent again. -/
theorem sending_of_step (c c' : Client) (m : Move) (h : c.step m = some c')
    (hsending : c'.sending = true) : c.sending = true := by
  cases leads_of_step c c' m h with
  | cutOff => exact absurd hsending nofun
  | publish | closePublisher | read | push | failPush | wake | finish | dropPushing | send
  | receiveText | receiveOther | receiveEnd | handle | answer | loseAnswer | dropAnswering =>
      exact hsending

/-- The end of the other tasks, which lets the pushing task be dropped, is not
    taken back. -/
theorem over_of_step (c c' : Client) (m : Move) (h : c.step m = some c')
    (hover : c.answering = .finished ∨ c.sending = false) :
    c'.answering = .finished ∨ c'.sending = false := by
  cases leads_of_step c c' m h with
  | cutOff => exact Or.inr rfl
  | receiveEnd | dropAnswering => exact Or.inl rfl
  | receiveText frame inbox hanswering | receiveOther inbox hanswering | handle frame hanswering
  | answer response hanswering | loseAnswer response hanswering =>
      -- The answering task is at work here, so it is the sending that is over.
      exact Or.inr (hover.resolve_left fun hfinished =>
        absurd (hanswering.symm.trans hfinished) nofun)
  | publish | closePublisher | read | push | failPush | wake | finish | dropPushing | send =>
      exact hover

/-- What was queued stays queued. -/
theorem queue_prefix_of_step (c c' : Client) (m : Move) (h : c.step m = some c') :
    c.queue <+: c'.queue := by
  cases leads_of_step c c' m h with
  | push | answer => exact List.prefix_append _ _
  | publish | closePublisher | read | failPush | wake | finish | dropPushing | send
  | receiveText | receiveOther | receiveEnd | handle | loseAnswer | dropAnswering | cutOff =>
      exact List.prefix_rfl

/-- A run in two parts goes through the client between them. -/
theorem run_append (c : Client) (moves later : List Move) :
    c.run (moves ++ later) = (c.run moves).bind fun d => d.run later :=
  List.foldlM_append

/-- A run that begins with a step. -/
theorem run_cons (c d e : Client) (m : Move) (moves : List Move) (hstep : c.step m = some d)
    (hrun : d.run moves = some e) : c.run (m :: moves) = some e := by
  rw [run, List.foldlM_cons, hstep]
  exact hrun

theorem run_singleton (c : Client) (m : Move) : c.run [m] = c.step m := by
  rw [run, List.foldlM_cons]
  cases c.step m with
  | none => rfl
  | some d => rfl

/-- Induction along a run. The moves made so far stand next to the client they
    led to, because what is said about a client depends on what was published
    and what arrived. -/
theorem run_induct (P : List Move → Client → Prop) (c : Client) (hstart : P [] c)
    (hstep : ∀ moves m d d', P moves d → d.step m = some d' → P (moves ++ [m]) d')
    (moves : List Move) (d : Client) (h : c.run moves = some d) : P moves d := by
  induction moves using List.reverseRecOn generalizing d with
  | nil =>
      rcases Option.some.inj h with rfl
      exact hstart
  | append_singleton moves m ih =>
      rw [run_append, Option.bind_eq_some_iff] at h
      rcases h with ⟨e, he, hm⟩
      rw [run_singleton] at hm
      exact hstep moves m e d (ih e he) hm

/-- What was queued stays queued along a run. -/
theorem queue_prefix_run (c d : Client) (moves : List Move) (h : c.run moves = some d) :
    c.queue <+: d.queue :=
  run_induct (fun _ d => c.queue <+: d.queue) c List.prefix_rfl
    (fun _ m d d' hqueue hstep => hqueue.trans (queue_prefix_of_step d d' m hstep)) moves d h

end Client

end StreamRoster
