/-!
# Tallies

A tally counts events by the HTTP method that they concern. The counters of route registration
are two tallies: routes that were mounted, and routes that were found to be duplicates.

* `Tally.add` counts one event, `Tally.count` and `Tally.total` read a tally.
-/

namespace RpcRoutes

/-- The methods of the counted events, the latest first. -/
structure Tally where
  events : List String
  deriving DecidableEq, Repr

namespace Tally

def zero : Tally := ⟨[]⟩

def add (t : Tally) (method : String) : Tally := ⟨method :: t.events⟩

def count (t : Tally) (method : String) : Nat := t.events.count method

def total (t : Tally) : Nat := t.events.length

@[simp] theorem total_zero : zero.total = 0 := rfl

theorem count_add (t : Tally) (method other : String) :
    (t.add method).count other = t.count other + if method = other then 1 else 0 := by
  simp [count, add, List.count_cons]

@[simp] theorem total_add (t : Tally) (method : String) : (t.add method).total = t.total + 1 := rfl

end Tally

structure Counters where
  registered : Tally
  /-- Routes that were found to be duplicates. -/
  duplicate : Tally
  deriving DecidableEq, Repr

namespace Counters

def zero : Counters := ⟨.zero, .zero⟩

def addRegistered (c : Counters) (method : String) : Counters :=
  { c with registered := c.registered.add method }

def addDuplicate (c : Counters) (method : String) : Counters :=
  { c with duplicate := c.duplicate.add method }

end Counters

end RpcRoutes
