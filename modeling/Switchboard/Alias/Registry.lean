import Switchboard.Alias.Snapshot

/-!
# The command registry

The registry holds the current snapshot of the commands. A new listing replaces it as a whole, so
that nobody sees a mixture of two listings.

Time is counted in readings of a clock: a reading is one second later than the one before it. A new
registry reads the clock once, and each replacement once more.
-/

namespace Switchboard.Alias

/-- The current commands, and how often the clock was read. -/
structure Registry where
  current : Snapshot
  clock : Nat
  deriving Repr

namespace Registry

/-- A registry without commands. -/
def initial : Registry := ⟨.empty 1, 1⟩

/-- Replaces the current commands by those of a listing. -/
def replace (registry : Registry) (listing : List Definition) : Registry :=
  let clock := registry.clock + 1
  ⟨.build listing clock, clock⟩

/-- Resolves a chat line to the first format that recognizes it. -/
def resolve (registry : Registry) (line : String) : Option Resolved := registry.current.resolve line

end Registry

end Switchboard.Alias
