/-!
# Publications

A value that others watch.

Publishing replaces the value and moves the version on, also when the new
value equals the old one. A watcher remembers the version it saw last, and
has something new to see exactly when the current version is another one.

## Main definitions

* `Publication`: The current value and its version.
* `Publication.publish`: Replaces the value.
-/

namespace StreamRoster

/-- A watched value with its version, which counts the publishes. -/
structure Publication (α : Type) where
  value : α
  version : Nat
  deriving DecidableEq, Repr

namespace Publication

/-- A value that was never published. -/
def start (value : α) : Publication α := ⟨value, 0⟩

/-- Replace the value. -/
def publish (p : Publication α) (value : α) : Publication α := ⟨value, p.version + 1⟩

end Publication

end StreamRoster
