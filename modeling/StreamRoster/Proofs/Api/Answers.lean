import StreamRoster.Proofs.Api.Moves

/-!
# The Answers That Are Given

Which answers are queued for a client, whatever it sends and whatever is
published and pushed in between.

What a client asks is read off what it sends: the texts in front of the first
frame behind which nothing is read. On which list each of them is answered is
read off the moves, for the list is looked up in a step of its own; `consulted`
gives the lists that were current in those steps. The answers are the two rows
taken together, the first text with the first list and so on. `Heard` says that
of a client in the middle of a run, where the last text may be in hand without
an answer, or the answer in hand without being queued.

The pushing task shares the queue, but nothing that the answers depend on.
`aside` forgets all that belongs to it. A step of the pushing task is not seen
any more then, and every other step does to what is left what it did before, so
a run without the steps of the pushing task gives the same answers.

## Main definitions

* `asked`: The texts of a run that are answered.
* `consulted`: The lists on which they are answered.
* `unread`: The texts that were not answered yet.
* `Heard`: How a client stands to what arrived in a run.
* `aside`: A client without its pushing task.
* `AnsweredInOrder`: What the queue of a client holds of the answers.

## Theorems

* `consulted_concat`: The lists that one more move consults.
* `heard_step`: A move keeps the answers in order.
* `heard_run`: Every run keeps the answers in order.
* `run_aside`: A run without the steps of the pushing task.
* `serves`: The task can always answer what was not read.
* `answers_of_run`: The answers that any run queues.
-/

namespace StreamRoster

namespace Client

/-- The texts among what arrives. -/
def texts (row : List Incoming) : List String := row.filterMap Incoming.text?

/-- What is read of what arrives: all in front of the end. -/
def live (row : List Incoming) : List Incoming := row.takeWhile fun incoming => !incoming.ends

/-- The texts that arrive in a run and are answered, in order. -/
def asked (moves : List Move) : List String := texts (live (sent moves))

/-- The lists that are current where a run looks up an answer, in order. -/
def consulted : Publication (List Item) → List Move → List (List Item)
  | _, [] => []
  | current, .publish items :: moves => consulted (current.publish items) moves
  | current, .handle :: moves => current.value :: consulted current moves
  | current, _ :: moves => consulted current moves

/-- The list that a move consults. -/
def Move.consults? (current : Publication (List Item)) : Move → Option (List Item)
  | .handle => some current.value
  | _ => none

theorem consulted_concat (first : Publication (List Item)) (moves : List Move) (m : Move) :
    consulted first (moves ++ [m]) = consulted first moves ++
      (m.consults? ((published moves).foldl Publication.publish first)).toList := by
  induction moves generalizing first with
  | nil => cases m <;> rfl
  | cons m' moves ih =>
      cases m' with
      | publish items => exact ih (first.publish items)
      | handle => exact congrArg (first.value :: ·) (ih first)
      | closePublisher | read | push | wake | finish | dropPushing | send | receive | answer
      | dropAnswering | cutOff => exact ih first

theorem texts_append (row later : List Incoming) :
    texts (row ++ later) = texts row ++ texts later :=
  List.filterMap_append

/-- What is read of a row that has not ended yet, and of more. -/
theorem live_append (row later : List Incoming) (h : ∀ incoming ∈ row, incoming.ends = false) :
    live (row ++ later) = row ++ live later :=
  List.takeWhile_append_of_pos fun incoming hmem => by rw [h incoming hmem]; rfl

/-- The answer that is about to be queued. -/
def Answering.ready? : Answering → Option (Response Json.Tree)
  | .answering response => some response
  | .listening | .handling _ | .finished => none

/-- The texts that arrived and have no answer yet. Where the answering task is
    over, none of them will get one. -/
def unread (c : Client) : List String :=
  match c.answering with
  | .finished => []
  | .handling frame => frame :: texts (live c.inbox)
  | .listening | .answering _ => texts (live c.inbox)

/-- How what was read compares with what was handled, for each state of the
    answering task. -/
inductive Attends (taken : List Incoming) (handled : List String) : Answering → Prop where
  | listening (hopen : ∀ incoming ∈ taken, incoming.ends = false)
      (htexts : texts taken = handled) : Attends taken handled .listening
  | handling (frame : String) (hopen : ∀ incoming ∈ taken, incoming.ends = false)
      (htexts : texts taken = handled ++ [frame]) : Attends taken handled (.handling frame)
  | answering (response : Response Json.Tree) (hopen : ∀ incoming ∈ taken, incoming.ends = false)
      (htexts : texts taken = handled) : Attends taken handled (.answering response)
  | finished (front : List Incoming) (last : Incoming) (htaken : taken = front ++ [last])
      (hopen : ∀ incoming ∈ front, incoming.ends = false) (hends : last.ends = true)
      (htexts : texts front = handled) : Attends taken handled .finished

/-- How a client stands to what arrived in the moves that led to it: what was
    read of it, and which texts were handled. -/
structure Heard (first : Publication (List Item)) (moves : List Move) (c : Client)
    (taken : List Incoming) (handled : List String) : Prop where
  listing : c.listing = (published moves).foldl Publication.publish first
  arrived : sent moves = taken ++ c.inbox
  lengths : (consulted first moves).length = handled.length
  answered : c.answers ++ c.answering.ready?.toList =
    List.zipWith Request.response (consulted first moves) handled
  attends : Attends taken handled c.answering

theorem heard_start (first : Publication (List Item)) (seen : Nat) (publishing : Bool) :
    Heard first [] (start first seen publishing) [] [] where
  listing := rfl
  arrived := rfl
  lengths := rfl
  answered := rfl
  attends := Attends.listening (fun _ hmem => absurd hmem List.not_mem_nil) rfl

/-- A move that looks no answer up. -/
theorem heard_keep (first : Publication (List Item)) (moves : List Move) (m : Move) (c c' : Client)
    (taken taken' : List Incoming) (handled : List String)
    (h : Heard first moves c taken handled) (hstep : c.step m = some c')
    (hconsults : ∀ current, m.consults? current = none)
    (harrived : taken ++ c.inbox ++ m.sent?.toList = taken' ++ c'.inbox)
    (hanswered : c'.answers ++ c'.answering.ready?.toList =
      c.answers ++ c.answering.ready?.toList)
    (hattends : Attends taken' handled c'.answering) :
    Heard first (moves ++ [m]) c' taken' handled := by
  have hconsulted : consulted first (moves ++ [m]) = consulted first moves := by
    rw [consulted_concat, hconsults]
    exact List.append_nil _
  refine ⟨?_, ?_, ?_, ?_, hattends⟩
  · rw [listing_of_step c c' m hstep, published_concat, List.foldl_append, ← h.listing]
  · rw [sent_concat, h.arrived, harrived]
  · rw [hconsulted]
    exact h.lengths
  · rw [hconsulted, hanswered]
    exact h.answered

/-- Looking an answer up: the text in hand is the next one, and it is answered
    on the list that is current. -/
theorem heard_handle (first : Publication (List Item)) (moves : List Move) (c : Client)
    (taken : List Incoming) (handled : List String) (frame : String)
    (h : Heard first moves c taken handled) (hanswering : c.answering = .handling frame) :
    Heard first (moves ++ [.handle])
      { c with answering := .answering (Request.response c.listing.value frame) } taken
      (handled ++ [frame]) := by
  have hconsulted : consulted first (moves ++ [.handle]) =
      consulted first moves ++ [c.listing.value] := by
    rw [consulted_concat, h.listing]
    rfl
  have hanswered := h.answered
  have hattends := h.attends
  rw [hanswering] at hanswered hattends
  -- Nothing arrives and nothing is taken; the frame moves on to the handled ones,
  -- next to the list it was answered from.
  refine ⟨?_, ?_, ?_, ?_, ?_⟩
  · rw [published_of_none moves .handle rfl]
    exact h.listing
  · rw [sent_concat, h.arrived]
    exact List.append_nil _
  · rw [hconsulted, List.length_append, List.length_append, h.lengths]
    rfl
  · rw [hconsulted, List.zipWith_append h.lengths, ← hanswered]
    exact congrArg (· ++ _) (List.append_nil _).symm
  · cases hattends with
    | handling _ hopen htexts => exact Attends.answering _ hopen htexts

/-- What is read in a state in which the answering task listens. -/
theorem heard_listening (first : Publication (List Item)) (moves : List Move) (c : Client)
    (taken : List Incoming) (handled : List String) (h : Heard first moves c taken handled)
    (hanswering : c.answering = .listening) :
    (∀ incoming ∈ taken, incoming.ends = false) ∧ texts taken = handled := by
  have hattends := h.attends
  rw [hanswering] at hattends
  cases hattends with
  | listening hopen htexts => exact ⟨hopen, htexts⟩

theorem open_concat (taken : List Incoming) (incoming : Incoming)
    (hopen : ∀ any ∈ taken, any.ends = false) (hends : incoming.ends = false) :
    ∀ any ∈ taken ++ [incoming], any.ends = false := by
  intro any hmem
  rcases List.mem_append.mp hmem with hearlier | hlast
  · exact hopen any hearlier
  · rw [List.mem_singleton.mp hlast]
    exact hends

theorem heard_step (first : Publication (List Item)) (moves : List Move) (m : Move) (c c' : Client)
    (taken : List Incoming) (handled : List String) (h : Heard first moves c taken handled)
    (hstep : c.step m = some c') (hsending : c'.sending = true) :
    ∃ taken handled, Heard first (moves ++ [m]) c' taken handled := by
  have hkeep := heard_keep first moves m c c' taken
  cases leads_of_step c c' m hstep with
  | publish | closePublisher | read | failPush | wake | finish | dropPushing =>
      exact ⟨taken, handled, hkeep taken handled h hstep (fun _ => rfl) (List.append_nil _) rfl
        h.attends⟩
  | push list =>
      have hanswers := (answers_of_queue c { c with
        queue := c.queue ++ [.listing list], pushing := .waiting } (.listing list) rfl).trans
          (List.append_nil _)
      exact ⟨taken, handled, hkeep taken handled h hstep (fun _ => rfl) (List.append_nil _)
        (congrArg (· ++ _) hanswers) h.attends⟩
  | send incoming =>
      exact ⟨taken, handled, hkeep taken handled h hstep (fun _ => rfl) (List.append_assoc _ _ _)
        rfl h.attends⟩
  | receiveText frame inbox hanswering hinbox =>
      rcases heard_listening first moves c taken handled h hanswering with ⟨hopen, htexts⟩
      refine ⟨taken ++ [.text frame], handled,
        hkeep _ handled h hstep (fun _ => rfl) ?_ ?_ (Attends.handling frame ?_ ?_)⟩
      · rw [hinbox]
        exact (List.append_nil _).trans (List.append_cons _ _ _)
      · rw [hanswering]
        rfl
      · exact open_concat taken _ hopen rfl
      · rw [texts_append, htexts]
        rfl
  | receiveOther inbox hanswering hinbox =>
      rcases heard_listening first moves c taken handled h hanswering with ⟨hopen, htexts⟩
      refine ⟨taken ++ [.other], handled,
        hkeep _ handled h hstep (fun _ => rfl) ?_ ?_ (Attends.listening ?_ ?_)⟩
      · rw [hinbox]
        exact (List.append_nil _).trans (List.append_cons _ _ _)
      · rw [hanswering]
        rfl
      · exact open_concat taken _ hopen rfl
      · rw [texts_append, htexts]
        exact List.append_nil _
  | receiveEnd incoming hends inbox hanswering hinbox =>
      rcases heard_listening first moves c taken handled h hanswering with ⟨hopen, htexts⟩
      refine ⟨taken ++ [incoming], handled, hkeep _ handled h hstep (fun _ => rfl) ?_ ?_
        (Attends.finished taken incoming rfl hopen hends htexts)⟩
      · rw [hinbox]
        exact (List.append_nil _).trans (List.append_cons _ _ _)
      · rw [hanswering]
        rfl
  -- The only move that consults the list.
  | handle frame hanswering =>
      exact ⟨taken, handled ++ [frame], heard_handle first moves c taken handled frame h hanswering⟩
  | answer response hanswering =>
      have hattends := h.attends
      rw [hanswering] at hattends
      cases hattends with
      | answering _ hopen htexts =>
          refine ⟨taken, handled, hkeep taken handled h hstep (fun _ => rfl) (List.append_nil _) ?_
            (Attends.listening hopen htexts)⟩
          rw [answers_of_queue c { c with
            queue := c.queue ++ [.answer response], answering := .listening } _ rfl, hanswering]
          exact List.append_nil _
  | loseAnswer response hanswering hdown => exact absurd (hdown.symm.trans hsending) nofun
  | dropAnswering hanswering hdown => exact absurd (hdown.symm.trans hsending) nofun
  | cutOff => exact absurd hsending nofun

/-- Every run keeps the answers in order as long as what is queued is sent. -/
theorem heard_run (first : Publication (List Item)) (seen : Nat) (publishing : Bool)
    (moves : List Move) (c : Client) (h : (start first seen publishing).run moves = some c) :
    c.sending = true → ∃ taken handled, Heard first moves c taken handled := by
  refine run_induct (fun moves c => c.sending = true → ∃ taken handled,
    Heard first moves c taken handled) _ (fun _ => ⟨[], [], heard_start first seen publishing⟩)
    (fun moves m c c' hheard hstep hsending => ?_) moves c h
  rcases hheard (sending_of_step c c' m hstep hsending) with ⟨taken, handled, hheard⟩
  exact heard_step first moves m c c' taken handled hheard hstep hsending

/-- What was asked is what was handled and what was not read yet. -/
theorem asked_of_heard (first : Publication (List Item)) (moves : List Move) (c : Client)
    (taken : List Incoming) (handled : List String) (h : Heard first moves c taken handled) :
    asked moves = handled ++ c.unread := by
  have hattends := h.attends
  rw [asked, h.arrived, unread]
  generalize c.answering = answering at hattends
  cases hattends with
  | listening hopen htexts | answering _ hopen htexts =>
      rw [live_append taken c.inbox hopen, texts_append, htexts]
  | handling frame hopen htexts =>
      rw [live_append taken c.inbox hopen, texts_append, htexts, List.append_assoc]
      rfl
  | finished front last htaken hopen hends htexts =>
      -- Nothing is read behind what ended the reading, though more may have arrived.
      have hlast : live (last :: c.inbox) = [] :=
        List.takeWhile_cons_of_neg (by rw [hends]; exact Bool.false_ne_true)
      rw [htaken, List.append_assoc, List.cons_append, List.nil_append,
        live_append front _ hopen, hlast, List.append_nil, htexts, List.append_nil]

/-! ### Without the pushing task -/

/-- Whether a step is one of the pushing task. -/
def Move.ofPushing : Move → Bool
  | .read | .push | .wake | .finish | .dropPushing => true
  | .publish _ | .closePublisher | .send _ | .receive | .handle | .answer | .dropAnswering
  | .cutOff => false

/-- A client whose pushing task has done nothing. -/
def aside (seen : Nat) (c : Client) : Client :=
  { c with pushing := .starting, seen, queue := c.queue.filter fun out => out.answer?.isSome }

theorem answers_aside (seen : Nat) (c : Client) : (c.aside seen).answers = c.answers := by
  rw [answers, answers, aside, List.filterMap_filter]
  refine congrArg (List.filterMap · c.queue) (funext fun out => ?_)
  cases out <;> rfl

/-- A step of the pushing task is not seen from aside. -/
theorem aside_of_pushing (seen : Nat) (c c' : Client) (m : Move) (hm : m.ofPushing = true)
    (hstep : c.step m = some c') : c'.aside seen = c.aside seen := by
  cases leads_of_step c c' m hstep with
  | push list =>
      rw [aside, aside, List.filter_append]
      exact congrArg (fun queue => ({ c with pushing := .starting, seen, queue } : Client))
        (List.append_nil _)
  | read | failPush | wake | finish | dropPushing => rfl
  | publish | closePublisher | send | receiveText | receiveOther | receiveEnd | handle | answer
  | loseAnswer | dropAnswering | cutOff => exact absurd hm nofun

theorem answer_aside (seen : Nat) (c : Client) (response : Response Json.Tree) :
    (c.aside seen).answer response = (c.answer response).aside seen := by
  have hkept : (c.aside seen).sending = c.sending := rfl
  rw [answer, answer, hkept]
  by_cases hsending : c.sending = true
  · rw [if_pos hsending, if_pos hsending, aside, aside, List.filter_append]
    rfl
  · rw [if_neg hsending, if_neg hsending]
    rfl

/-- Any other step is the same from aside. -/
theorem step_aside (seen : Nat) (c : Client) (m : Move) (hm : m.ofPushing = false) :
    (c.aside seen).step m = (c.step m).map (aside seen) := by
  cases m with
  | read | push | wake | finish | dropPushing => exact absurd hm nofun
  | send => rfl
  | publish | closePublisher =>
      rw [step, step, aside]
      cases c.publishing <;> rfl
  | cutOff =>
      rw [step, step, aside]
      cases c.sending <;> rfl
  | handle =>
      rw [step, step, aside]
      cases c.answering <;> rfl
  | dropAnswering =>
      rw [step, step, aside]
      cases c.answering with
      | listening => cases c.sending <;> rfl
      | handling | answering | finished => rfl
  | receive =>
      rw [step, step, aside]
      cases c.answering with
      | handling | answering | finished => rfl
      | listening =>
          cases c.inbox with
          | nil => rfl
          | cons incoming inbox => cases incoming <;> rfl
  | answer =>
      -- The answer goes to the queue that both tasks put frames into.
      have hkept : (c.aside seen).answering = c.answering := rfl
      rw [step, step, hkept]
      cases c.answering with
      | listening | handling | finished => rfl
      | answering response => exact congrArg some (answer_aside seen c response)

/-- A run without the steps of the pushing task is the same from aside. -/
theorem run_aside (seen : Nat) (c d : Client) (moves : List Move) (h : c.run moves = some d) :
    (c.aside seen).run (moves.filter fun m => !m.ofPushing) = some (d.aside seen) := by
  induction moves generalizing c with
  | nil =>
      rcases Option.some.inj h with rfl
      rfl
  | cons m moves ih =>
      rw [run, List.foldlM_cons] at h
      rcases Option.bind_eq_some_iff.mp h with ⟨e, hstep, hrun⟩
      cases hm : m.ofPushing with
      | true =>
          -- The step is left out, and the client it leads to looks the same.
          rw [List.filter_cons_of_neg (by rw [hm]; exact Bool.false_ne_true),
            ← aside_of_pushing seen c e m hm hstep]
          exact ih e hrun
      | false =>
          rw [List.filter_cons_of_pos (by rw [hm]; rfl)]
          refine run_cons _ (e.aside seen) _ m _ ?_ (ih e hrun)
          rw [step_aside seen c m hm, hstep]
          rfl

/-! ### What was not read yet -/

/-- Whether the answering task can queue some answers by steps of its own. -/
def Serves (c : Client) (responses : List (Response Json.Tree)) : Prop :=
  ∃ task d, (∀ m ∈ task, m ∈ [.receive, .handle, .answer]) ∧ c.run task = some d ∧
    d.listing = c.listing ∧ d.answers = c.answers ++ responses

theorem serves_nil (c : Client) : Serves c [] :=
  ⟨[], c, fun _ hmem => absurd hmem List.not_mem_nil, rfl, rfl, (List.append_nil _).symm⟩

/-- A step of the answering task, and then more. -/
theorem serves_cons (c e : Client) (m : Move) (first rest : List (Response Json.Tree))
    (hm : m ∈ [.receive, .handle, .answer]) (hstep : c.step m = some e)
    (hlisting : e.listing = c.listing) (hanswers : e.answers = c.answers ++ first)
    (h : Serves e rest) : Serves c (first ++ rest) := by
  rcases h with ⟨task, d, htask, hrun, hkept, hqueued⟩
  refine ⟨m :: task, d, fun m' hm' => ?_, run_cons c e d m task hstep hrun,
    hkept.trans hlisting, ?_⟩
  · rcases List.mem_cons.mp hm' with rfl | htail
    · exact hm
    · exact htask m' htail
  · rw [hqueued, hanswers, List.append_assoc]

/-- Queueing the answer in hand. -/
theorem serves_of_answering (c : Client) (response : Response Json.Tree)
    (rest : List (Response Json.Tree)) (hsending : c.sending = true)
    (hanswering : c.answering = .answering response)
    (h : Serves { c with queue := c.queue ++ [.answer response], answering := .listening } rest) :
    Serves c (response :: rest) := by
  have hmem : Move.answer ∈ [Move.receive, .handle, .answer] :=
    List.mem_cons_of_mem _ (List.mem_cons_of_mem _ (List.mem_singleton_self _))
  have hanswers := answers_of_queue c
    { c with queue := c.queue ++ [.answer response], answering := .listening } _ rfl
  refine serves_cons c
    { c with queue := c.queue ++ [.answer response], answering := .listening } .answer
    [response] rest hmem ?_ rfl hanswers h
  simp only [step, hanswering]
  rw [answer, if_pos hsending]

/-- Answering the text in hand. -/
theorem serves_of_handling (c : Client) (frame : String)
    (rest : List (Response Json.Tree)) (hsending : c.sending = true)
    (hanswering : c.answering = .handling frame)
    (h : Serves { c with
      queue := c.queue ++ [.answer (Request.response c.listing.value frame)],
      answering := .listening } rest) :
    Serves c (Request.response c.listing.value frame :: rest) := by
  refine serves_cons c
    { c with answering := .answering (Request.response c.listing.value frame) } .handle [] _
    (List.mem_cons_of_mem _ List.mem_cons_self) ?_ rfl (List.append_nil _).symm
    (serves_of_answering _ _ rest hsending rfl h)
  simp only [step, hanswering]

/-- Reading and answering what was not read. -/
theorem serves_of_listening (inbox : List Incoming) (c : Client) (hinbox : c.inbox = inbox)
    (hsending : c.sending = true) (hanswering : c.answering = .listening) :
    Serves c ((texts (live inbox)).map (Request.response c.listing.value)) := by
  induction inbox generalizing c with
  | nil => exact serves_nil c
  | cons incoming inbox ih =>
      cases incoming with
      | close | lost => exact serves_nil c
      | other =>
          refine serves_cons c { c with inbox } .receive [] _ List.mem_cons_self ?_ rfl
            (List.append_nil _).symm (ih { c with inbox } rfl hsending hanswering)
          simp only [step, hanswering, hinbox, receive]
      | text frame =>
          refine serves_cons c { c with inbox, answering := .handling frame } .receive [] _
            List.mem_cons_self ?_ rfl (List.append_nil _).symm
            (serves_of_handling _ frame _ hsending rfl (ih _ rfl hsending rfl))
          simp only [step, hanswering, hinbox, receive]

/-- The task can always queue the answer in hand, and an answer to each text
    that was not read, on the list that is current. -/
theorem serves (c : Client) (hsending : c.sending = true) :
    Serves c (c.answering.ready?.toList ++ c.unread.map (Request.response c.listing.value)) := by
  rw [unread]
  cases hanswering : c.answering with
  | finished => exact serves_nil c
  | listening => exact serves_of_listening c.inbox c rfl hsending hanswering
  | handling frame =>
      exact serves_of_handling c frame _ hsending hanswering
        (serves_of_listening c.inbox _ rfl hsending rfl)
  | answering response =>
      exact serves_of_answering c response _ hsending hanswering
        (serves_of_listening c.inbox _ rfl hsending rfl)

/-- What the queue of a client holds of the answers to what arrived in the moves
    that led to it, from a client that has just connected. -/
structure AnsweredInOrder (fresh : Client) (moves : List Move) (c : Client) : Prop where
  /-- The texts asked are those handled and, behind them, those unread. Each text
      handled has one answer, looked up on the list that was current then, and
      the answers stand in the order of the texts. The last one may be in hand. -/
  answered : ∃ handled, asked moves = handled ++ c.unread ∧
    (consulted fresh.listing moves).length = handled.length ∧
    c.answers ++ c.answering.ready?.toList =
      List.zipWith Request.response (consulted fresh.listing moves) handled
  /-- With nothing unread and nothing in hand, each text asked has its answer. -/
  complete : c.unread = [] → c.answering.ready? = none →
    c.answers.length = (asked moves).length ∧
      c.answers = List.zipWith Request.response (consulted fresh.listing moves) (asked moves)
  /-- Whatever was asked so far, the task can go on to answer what is unread. -/
  served : ∃ task d, (∀ m ∈ task, m ∈ [.receive, .handle, .answer]) ∧ c.run task = some d ∧
    d.listing = c.listing ∧ d.answers = c.answers ++
      (c.answering.ready?.toList ++ c.unread.map (Request.response c.listing.value))
  /-- No move takes back what was queued. -/
  kept : ∀ later d, c.run later = some d → c.queue <+: d.queue
  /-- Without the steps of the pushing task the queue would hold these answers,
      and nothing else. -/
  undisturbed : ∃ d, fresh.run (moves.filter fun m => !m.ofPushing) = some d ∧
    d.queue = c.queue.filter (fun out => out.answer?.isSome) ∧ d.answers = c.answers

/-- The answers that any run queues for a client as long as what is queued is
    sent, whatever arrives from it and whatever is published and pushed in
    between. A text that is no request is answered too, by a failure without
    data. -/
theorem answers_of_run (first : Publication (List Item)) (seen : Nat) (publishing : Bool)
    (moves : List Move) (c : Client) (h : (start first seen publishing).run moves = some c)
    (hsending : c.sending = true) :
    AnsweredInOrder (start first seen publishing) moves c ∧
      ∀ snapshot text, (∀ request, Json.readAll Request.read text ≠ .ok request) →
        ∃ message, Request.response snapshot text =
          { success := false, data := none, error := some message } := by
  rcases heard_run first seen publishing moves c h hsending with ⟨taken, handled, hheard⟩
  have hasked := asked_of_heard first moves c taken handled hheard
  refine ⟨?_, fun snapshot text hread => ?_⟩
  · refine
      { answered := ⟨handled, hasked, hheard.lengths, hheard.answered⟩
        complete := fun hunread hready => ?_
        served := serves c hsending
        kept := fun later d => queue_prefix_run c d later
        undisturbed := ⟨c.aside seen, run_aside seen _ c moves h, rfl, answers_aside seen c⟩ }
    -- Nothing is unread or in hand, so the texts asked for are those that were handled.
    have hanswered := hheard.answered
    rw [hunread, List.append_nil] at hasked
    rw [hready, Option.toList_none, List.append_nil, ← hasked] at hanswered
    refine ⟨?_, hanswered⟩
    rw [hanswered, List.length_zipWith, hasked]
    exact (congrArg (min · _) hheard.lengths).trans (Nat.min_self _)
  · rw [Request.response]
    cases hresult : Json.readAll Request.read text with
    | ok request => exact absurd hresult (hread request)
    | error f => exact ⟨_, rfl⟩

/-- A text that is no request, a frame without text, a request, a close, and a
    request behind it, with lists published and pushed in between. Two answers
    are queued. -/
theorem answers_of_closed_client :
    ∃ c, (start ⟨[⟨"a", 1⟩], 0⟩ 0 true).run
        [.send (.text "garbage"), .read, .receive, .push, .publish [], .handle, .wake, .answer,
          .send .other, .send (.text "\x7b\"type\":\"ListStreams\"\x7d"), .receive, .receive, .read,
          .handle, .push, .publish [⟨"b", 2⟩], .answer, .send .close,
          .send (.text "\x7b\"type\":\"ListStreams\"\x7d"), .receive] = some c ∧
      c.sending = true ∧
      AnsweredInOrder (start ⟨[⟨"a", 1⟩], 0⟩ 0 true)
        [.send (.text "garbage"), .read, .receive, .push, .publish [], .handle, .wake, .answer,
          .send .other, .send (.text "\x7b\"type\":\"ListStreams\"\x7d"), .receive, .receive, .read,
          .handle, .push, .publish [⟨"b", 2⟩], .answer, .send .close,
          .send (.text "\x7b\"type\":\"ListStreams\"\x7d"), .receive] c ∧
      c.answers.map Response.success = [false, true] := by
  refine ⟨_, rfl, rfl, ?_, ?_⟩
  · exact (answers_of_run ⟨[⟨"a", 1⟩], 0⟩ 0 true _ _ rfl rfl).1
  · decide +kernel

end Client

end StreamRoster
