import Mathlib.Data.List.Induction
import Mathlib.Data.List.Nodup
import Mathlib.Data.List.Range
import StreamRoster.Timeline.Dispatcher

/-!
# Who Hears an Action

An action goes to the listeners that were registered and not taken away since,
in the order in which they were registered.

A dispatcher takes a listener away by filtering its list, which would remove
every listener of a number. That it removes one is a matter of numbers, which
are given in turn and wrap around after 64 bits. As long as fewer than `2 ^ 64`
were given, all of them are different (`nodup_numbers`), those of listeners
that are long gone included.

`live` says who is registered by looking forward: a registration counts if none
of the later calls takes its number away. A call that names the number too early
has no effect on it, and neither has one that names a number that was never
given. The dispatcher looks back instead, at the list it has, and `answerTo` is
what it must answer if `live` is right about that list.

## Main definitions

* `Call.listener?`, `Call.withdraws`: What a call adds and takes away.
* `registrations`: How many listeners were registered.
* `live`: The listeners that were registered and not taken away since.
* `answerTo`: What is to be answered to a call behind others.

## Theorems

* `nodup_numbers`: The first numbers are different.
* `live_concat`: What one more call does to the live listeners.
* `nodup_live`: No two live listeners have the same number.
* `live_unregister_of_mem`: A number that is taken away takes one listener.
* `reactions_of_two`: A listener of two numbers is invoked twice.
* `holds_call`, `holds_run`: Calls lead to the live listeners.
* `ids_of_run`: Numbers are given in turn.
* `dispatches_of_run`: Everything that a dispatcher does over any calls.
-/

namespace StreamRoster

namespace Dispatcher

variable {β γ : Type}

/-- The number that is given in turn. -/
def number (k : Nat) : ListenerId := ⟨UInt64.ofNat k⟩

/-- The listener that a call adds. -/
def Call.listener? : Call β → Option β
  | .register listener => some listener
  | .unregister _ | .dispatch _ => none

/-- Whether a call takes a number away. -/
def Call.withdraws (id : ListenerId) : Call β → Bool
  | .unregister other => other = id
  | .register _ | .dispatch _ => false

/-- How many listeners were registered. -/
def registrations (calls : List (Call β)) : Nat := (calls.filterMap Call.listener?).length

/-- The listeners that some calls register and none of the calls behind takes
    away, in order, where some numbers were given before. -/
def live (given : Nat) : List (Call β) → List (ListenerId × β)
  | [] => []
  | .register listener :: calls =>
    if calls.any (Call.withdraws (number given)) then live (given + 1) calls
    else (number given, listener) :: live (given + 1) calls
  | .unregister _ :: calls => live given calls
  | .dispatch _ :: calls => live given calls

/-- What is to be answered to a call behind others. -/
def answerTo (react : β → Action → γ) (calls : List (Call β)) : Call β → Answer γ
  | .register _ => .registered (number (registrations calls))
  | .unregister id => .unregistered ((live 0 calls).any fun e => e.1 = id)
  | .dispatch action =>
    .dispatched (live 0 calls).length ((live 0 calls).map fun e => react e.2 action)

/-- The number that an answer gives. -/
def Answer.id? : Answer γ → Option ListenerId
  | .registered id => some id
  | .unregistered _ | .dispatched _ _ => none

/-- The numbers that were given, in order. -/
def ids (answers : List (Answer γ)) : List ListenerId := answers.filterMap Answer.id?

/-! ### Numbers -/

theorem number_inj (j k : Nat) (hj : j < UInt64.size) (hk : k < UInt64.size)
    (h : number j = number k) : j = k := by
  have hnat := congrArg (fun id => id.number.toNat) h
  simp only [number, UInt64.toNat_ofNat'] at hnat
  rw [UInt64.size] at hj hk
  omega

/-- The first numbers are different, as many as 64 bits can tell apart. -/
theorem nodup_numbers (n : Nat) (h : n ≤ UInt64.size) : ((List.range n).map number).Nodup := by
  refine List.Nodup.map_on (fun j hj k hk => ?_) List.nodup_range
  have hj := List.mem_range.mp hj
  have hk := List.mem_range.mp hk
  exact number_inj j k (by omega) (by omega)

/-! ### Live listeners -/

theorem registrations_concat (calls : List (Call β)) (c : Call β) :
    registrations (calls ++ [c]) = registrations calls + c.listener?.toList.length := by
  rw [registrations, List.filterMap_append, List.length_append, ← registrations]
  cases hc : c.listener? <;> simp [hc]

/-- One more call takes away what has its number, and a listener that it adds
    stands at the end under the next number. -/
theorem live_concat (given : Nat) (calls : List (Call β)) (c : Call β) :
    live given (calls ++ [c])
      = ((live given calls).filter fun e => !c.withdraws e.1)
        ++ (c.listener?.map fun l => (number (given + registrations calls), l)).toList := by
  induction calls generalizing given with
  | nil => cases c <;> rfl
  | cons first calls ih =>
      cases first with
      | unregister id => exact ih given
      | dispatch action => exact ih given
      | register listener =>
          have hcount : given + 1 + registrations calls
              = given + registrations (.register listener :: calls) := by
            simp only [registrations, List.filterMap_cons, Call.listener?, List.length_cons]
            omega
          rw [List.cons_append, live, List.any_append, ih, hcount, live]
          by_cases hgone : calls.any (Call.withdraws (number given)) = true
          · rw [hgone, Bool.true_or, if_pos rfl, if_pos rfl]
          · -- It was still there, so it is this call that decides whether it stays.
            rw [Bool.eq_false_iff.mpr hgone, Bool.false_or, if_neg Bool.false_ne_true]
            cases hc : c.withdraws (number given) <;> simp [hc]

/-- The numbers of live listeners are some of those that were given. -/
theorem live_sublist (calls : List (Call β)) :
    ((live 0 calls).map Prod.fst).Sublist ((List.range (registrations calls)).map number) := by
  induction calls using List.reverseRecOn with
  | nil => exact List.Sublist.slnil
  | append_singleton calls c ih =>
      have hkept := (List.filter_sublist (p := fun e => !c.withdraws e.1) (l := live 0 calls)).map
        Prod.fst
      rw [live_concat, registrations_concat, List.map_append, Nat.zero_add]
      cases c with
      | register listener =>
          rw [Call.listener?, Option.toList_some, List.length_singleton, List.range_succ,
            List.map_append]
          exact (hkept.trans ih).append (List.Sublist.refl _)
      | unregister id =>
          rw [Call.listener?, Option.map_none, Option.toList_none, List.map_nil, List.append_nil]
          exact hkept.trans ih
      | dispatch action =>
          rw [Call.listener?, Option.map_none, Option.toList_none, List.map_nil, List.append_nil]
          exact hkept.trans ih

/-- No two live listeners have the same number. -/
theorem nodup_live (calls : List (Call β)) (h : registrations calls < UInt64.size) :
    ((live 0 calls).map Prod.fst).Nodup :=
  (nodup_numbers _ (Nat.le_of_lt h)).sublist (live_sublist calls)

/-- A number that is taken away takes one listener with it, and the others stay
    in order. -/
theorem live_unregister_of_mem (calls : List (Call β)) (h : registrations calls < UInt64.size)
    (id : ListenerId) (listener : β) (hmem : (id, listener) ∈ live 0 calls) :
    ∃ before behind, live 0 calls = before ++ (id, listener) :: behind ∧
      live 0 (calls ++ [.unregister id]) = before ++ behind := by
  rcases List.append_of_mem hmem with ⟨before, behind, hlive⟩
  refine ⟨before, behind, hlive, ?_⟩
  have hnodup := nodup_live calls h
  rw [hlive, List.map_append, List.map_cons, List.nodup_middle, List.nodup_cons,
    List.mem_append, not_or] at hnodup
  rcases hnodup with ⟨⟨hbefore, hbehind⟩, _⟩
  -- Nothing in front of it or behind it has its number.
  have hkeep : ∀ entries : List (ListenerId × β), id ∉ entries.map Prod.fst →
      (entries.filter fun e => !(Call.unregister id : Call β).withdraws e.1) = entries := by
    intro entries hnot
    refine List.filter_eq_self.mpr fun e he => ?_
    have hne : id ≠ e.1 := fun heq => hnot (List.mem_map.mpr ⟨e, he, heq.symm⟩)
    simp [Call.withdraws, hne]
  rw [live_concat, hlive, List.filter_append, hkeep before hbefore, List.filter_cons,
    hkeep behind hbehind]
  simp [Call.withdraws, Call.listener?]

/-- A listener that is live under two numbers is invoked twice. -/
theorem reactions_of_two (react : β → Action → γ) (action : Action) (calls : List (Call β))
    (first second : ListenerId) (listener : β) (hne : first ≠ second)
    (hfirst : (first, listener) ∈ live 0 calls) (hsecond : (second, listener) ∈ live 0 calls) :
    [react listener action, react listener action].Sublist
      ((live 0 calls).map fun e => react e.2 action) := by
  rcases List.append_of_mem hfirst with ⟨before, behind, hlive⟩
  rw [hlive] at hsecond ⊢
  rw [List.map_append, List.map_cons]
  -- The other one stands in front of this one or behind it.
  rcases List.mem_append.mp hsecond with hmem | hmem
  · have hreact : react listener action ∈ before.map fun e => react e.2 action :=
      List.mem_map.mpr ⟨_, hmem, rfl⟩
    exact (List.singleton_sublist.mpr hreact).append
      (List.singleton_sublist.mpr List.mem_cons_self)
  · have hmem : (second, listener) ∈ behind := by
      rcases List.mem_cons.mp hmem with heq | hmem
      · exact absurd (congrArg Prod.fst heq).symm hne
      · exact hmem
    have hreact : react listener action ∈ behind.map fun e => react e.2 action :=
      List.mem_map.mpr ⟨_, hmem, rfl⟩
    exact ((List.singleton_sublist.mpr hreact).cons_cons _).trans
      (List.sublist_append_right _ _)

/-! ### Runs -/

theorem run_concat (react : β → Action → γ) (d : Dispatcher β) (calls : List (Call β))
    (c : Call β) :
    d.run react (calls ++ [c])
      = ((d.run react calls).1 ++ [((d.run react calls).2.call react c).1],
          ((d.run react calls).2.call react c).2) := by
  induction calls generalizing d with
  | nil => rfl
  | cons first calls ih =>
      simp only [List.cons_append, run, ih]

/-- A dispatcher that some calls lead to: its listeners are the live ones, and
    the next number is how many were given. -/
structure Holds (calls : List (Call β)) (d : Dispatcher β) : Prop where
  listeners : d.listeners = live 0 calls
  next : d.nextId = UInt64.ofNat (registrations calls)

theorem unregister_fst (d : Dispatcher β) (id : ListenerId) :
    (d.unregister id).1 = d.listeners.any fun e => e.1 = id := by
  have hiff : (d.listeners.filter fun l => l.1 ≠ id).length = d.listeners.length ↔
      ∀ e ∈ d.listeners, e.1 ≠ id := by
    rw [List.length_filter_eq_length_iff]
    simp only [decide_eq_true_eq]
  rw [unregister, Bool.eq_iff_iff, decide_eq_true_eq, List.any_eq_true, Ne, hiff]
  simp only [decide_eq_true_eq, not_forall, not_not, exists_prop]

/-- A number that no listener has takes nothing with it. -/
theorem unregister_snd_of_not_mem (d : Dispatcher β) (id : ListenerId)
    (h : id ∉ d.listeners.map Prod.fst) : (d.unregister id).2 = d := by
  have hkeep : (d.listeners.filter fun l => l.1 ≠ id) = d.listeners := by
    refine List.filter_eq_self.mpr fun e he => decide_eq_true fun heq => ?_
    exact h (List.mem_map.mpr ⟨e, he, heq⟩)
  unfold unregister
  rw [hkeep]

/-- A call is answered as it is to be, and leads to the live listeners. -/
theorem holds_call (react : β → Action → γ) (calls : List (Call β)) (d : Dispatcher β)
    (h : Holds calls d) (c : Call β) :
    (d.call react c).1 = answerTo react calls c ∧ Holds (calls ++ [c]) (d.call react c).2 := by
  -- In each case: the answer, then the listeners that are left, then the next number.
  cases c with
  | register listener =>
      refine ⟨?_, ?_, ?_⟩
      · rw [call, register, h.next]
        rfl
      · rw [call, register, live_concat, Nat.zero_add, h.next, h.listeners]
        simp [Call.withdraws, Call.listener?, number]
      · rw [call, register, registrations_concat, h.next]
        exact (UInt64.ofNat_add _ 1).symm
  | unregister id =>
      refine ⟨?_, ?_, ?_⟩
      · rw [answerTo, ← h.listeners, ← unregister_fst]
        rfl
      · rw [call, unregister, live_concat, h.listeners]
        simp [Call.withdraws, Call.listener?, eq_comm]
      · rw [registrations_concat]
        exact h.next
  | dispatch action =>
      refine ⟨?_, ?_, ?_⟩
      · rw [call, dispatch, size, h.listeners]
        rfl
      · rw [live_concat]
        simp [call, dispatch, Call.withdraws, Call.listener?, h.listeners]
      · rw [registrations_concat]
        exact h.next

/-- Any calls lead to the live listeners, by induction along them. -/
theorem holds_run (react : β → Action → γ) (calls : List (Call β)) :
    Holds calls (empty.run react calls).2 := by
  induction calls using List.reverseRecOn with
  | nil => exact ⟨rfl, rfl⟩
  | append_singleton calls c ih =>
      rw [run_concat]
      exact (holds_call react calls _ ih c).2

theorem answers_concat (react : β → Action → γ) (calls : List (Call β)) (c : Call β) :
    (empty.run react (calls ++ [c])).1 = (empty.run react calls).1 ++ [answerTo react calls c] := by
  rw [run_concat, (holds_call react calls _ (holds_run react calls) c).1]

/-- Numbers are given in turn. -/
theorem ids_of_run (react : β → Action → γ) (calls : List (Call β)) :
    ids (empty.run react calls).1 = (List.range (registrations calls)).map number := by
  induction calls using List.reverseRecOn with
  | nil => rfl
  | append_singleton calls c ih =>
      rw [answers_concat, ids, List.filterMap_append, ← ids, ih, registrations_concat]
      cases c with
      | register listener =>
          rw [Call.listener?, Option.toList_some, List.length_singleton, List.range_succ,
            List.map_append]
          rfl
      | unregister id => exact List.append_nil _
      | dispatch action => exact List.append_nil _

/-- Everything that a dispatcher does over any calls with fewer than `2 ^ 64`
    registrations. The numbers that it gives are different, and stay so when
    listeners are taken away. Its listeners are those that were registered and
    not taken away since, in order, and every call is answered by them: a
    dispatch invokes each of them once, in order and with the action, and no
    other. A number that is taken away takes one listener with it, if a live one
    has it, and nothing otherwise. A listener of two numbers is invoked twice. -/
theorem dispatches_of_run (react : β → Action → γ) (calls : List (Call β))
    (h : registrations calls < UInt64.size) :
    (ids (empty.run react calls).1).Nodup ∧
      ids (empty.run react calls).1 = (List.range (registrations calls)).map number ∧
      (empty.run react calls).2.listeners = live 0 calls ∧
      (∀ c, (empty.run react (calls ++ [c])).1
        = (empty.run react calls).1 ++ [answerTo react calls c]) ∧
      (∀ id listener, (id, listener) ∈ live 0 calls →
        ∃ before behind, (empty.run react calls).2.listeners = before ++ (id, listener) :: behind ∧
          (empty.run react (calls ++ [.unregister id])).2.listeners = before ++ behind) ∧
      (∀ id, id ∉ (live 0 calls).map Prod.fst →
        (empty.run react (calls ++ [.unregister id])).2 = (empty.run react calls).2) ∧
      ∀ first second listener action, first ≠ second → (first, listener) ∈ live 0 calls →
        (second, listener) ∈ live 0 calls →
        [react listener action, react listener action].Sublist
          ((empty.run react calls).2.dispatch react action).2 := by
  have hlisteners := fun calls => (holds_run react calls).listeners
  have hids := ids_of_run react calls
  refine ⟨?_, hids, hlisteners calls, answers_concat react calls, fun id listener hmem => ?_,
    fun id hnot => ?_, fun first second listener action hne hfirst hsecond => ?_⟩
  · rw [hids]
    exact nodup_numbers _ (Nat.le_of_lt h)
  · rw [hlisteners, hlisteners]
    exact live_unregister_of_mem calls h id listener hmem
  · rw [run_concat]
    refine unregister_snd_of_not_mem _ id ?_
    rw [hlisteners]
    exact hnot
  · rw [dispatch, hlisteners]
    exact reactions_of_two react action calls first second listener hne hfirst hsecond

/-- A listener that is registered three times and taken away once, although the
    withdrawal is repeated and a number is named that nobody was given. -/
theorem dispatches_of_withdrawn_listener :
    registrations [.register "a", .unregister ⟨0⟩, .register "a", .unregister ⟨0⟩,
        .unregister ⟨7⟩, .register "a"] < UInt64.size ∧
      (empty.run (fun (l : String) a => (l, a.kind)) [.register "a", .unregister ⟨0⟩,
        .register "a", .unregister ⟨0⟩, .unregister ⟨7⟩, .register "a"]).2.listeners
          = [(⟨1⟩, "a"), (⟨2⟩, "a")] ∧
      [("a", ActionType.click), ("a", ActionType.click)].Sublist
        ((empty.run (fun (l : String) a => (l, a.kind)) [.register "a", .unregister ⟨0⟩,
          .register "a", .unregister ⟨0⟩, .unregister ⟨7⟩, .register "a"]).2.dispatch
            (fun l a => (l, a.kind)) (.atPlace .click (.zero false) (.zero false))).2 := by
  have hfew : registrations [.register "a", .unregister ⟨0⟩, .register "a", .unregister ⟨0⟩,
      .unregister ⟨7⟩, .register "a"] < UInt64.size := by decide
  rcases dispatches_of_run (fun (l : String) a => (l, a.kind)) _ hfew with
    ⟨_, _, hlive, _, _, _, htwo⟩
  refine ⟨hfew, hlive, ?_⟩
  exact htwo ⟨1⟩ ⟨2⟩ "a" (.atPlace .click (.zero false) (.zero false)) (by decide)
    List.mem_cons_self (List.mem_cons_of_mem _ List.mem_cons_self)

end Dispatcher

end StreamRoster
