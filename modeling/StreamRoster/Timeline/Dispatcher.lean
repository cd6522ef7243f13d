import StreamRoster.Timeline.Action

/-!
# The Action Dispatcher

Every action on the timeline goes to every registered listener, in the order
in which they were registered. No listener can keep an action from the
others. A listener is known by the number it was given. Numbers are given in
turn and have 64 bits, so the first `2 ^ 64` of them are different.

What a listener does with an action is left open: a listener is a value of
any type, and dispatching says which listeners are invoked.

## Main definitions

* `Dispatcher`: The registered listeners.
* `Dispatcher.register`, `Dispatcher.unregister`: Changes of the listeners.
* `Dispatcher.dispatch`: The listeners an action goes to.
* `Dispatcher.Call`, `Dispatcher.Answer`: What can be asked of a dispatcher.
* `Dispatcher.run`: The dispatcher after several calls, with its answers.
-/

namespace StreamRoster

/-- The number a listener is known by. -/
structure ListenerId where
  number : UInt64
  deriving DecidableEq, Repr

/-- A number as it is shown. -/
def ListenerId.text (id : ListenerId) : String := s!"ListenerId({id.number})"

/-- The registered listeners with their numbers, and the next number. -/
structure Dispatcher (β : Type) where
  listeners : List (ListenerId × β)
  nextId : UInt64

namespace Dispatcher

/-- A dispatcher without listeners. -/
def empty : Dispatcher β := ⟨[], 0⟩

/-- Register a listener under a new number. -/
def register (d : Dispatcher β) (listener : β) : ListenerId × Dispatcher β :=
  (⟨d.nextId⟩, ⟨d.listeners ++ [(⟨d.nextId⟩, listener)], d.nextId + 1⟩)

/-- Remove the listener with a number, and whether there was one. -/
def unregister (d : Dispatcher β) (id : ListenerId) : Bool × Dispatcher β :=
  let kept := d.listeners.filter fun l => l.1 ≠ id
  (kept.length ≠ d.listeners.length, { d with listeners := kept })

/-- The number of listeners. -/
def size (d : Dispatcher β) : Nat := d.listeners.length

/-- Whether there is no listener. -/
def isEmpty (d : Dispatcher β) : Bool := d.listeners.isEmpty

/-- How many listeners an action goes to, and what they do with it, one after
    the other. -/
def dispatch (d : Dispatcher β) (react : β → Action → γ) (action : Action) : Nat × List γ :=
  (d.size, d.listeners.map fun l => react l.2 action)

/-- What can be asked of a dispatcher. -/
inductive Call (β : Type) where
  | register (listener : β)
  | unregister (id : ListenerId)
  | dispatch (action : Action)

/-- What a dispatcher answers. A dispatch answers with a number, and with what
    the listeners did. -/
inductive Answer (γ : Type) where
  | registered (id : ListenerId)
  | unregistered (removed : Bool)
  | dispatched (count : Nat) (reactions : List γ)

/-- The answer to a call, and the dispatcher after it. -/
def call (react : β → Action → γ) (d : Dispatcher β) : Call β → Answer γ × Dispatcher β
  | .register listener => let (id, d) := d.register listener; (.registered id, d)
  | .unregister id => let (removed, d) := d.unregister id; (.unregistered removed, d)
  | .dispatch action =>
    let (count, reactions) := d.dispatch react action; (.dispatched count reactions, d)

/-- The answers to several calls, and the dispatcher after them. -/
def run (react : β → Action → γ) (d : Dispatcher β) : List (Call β) → List (Answer γ) × Dispatcher β
  | [] => ([], d)
  | c :: calls =>
    let (answer, d) := d.call react c
    let (answers, d) := run react d calls
    (answer :: answers, d)

end Dispatcher

end StreamRoster
