import Switchboard.Alias.Definition

/-!
# The source of the alias listing

The listing is fetched from a source, and a fetch may fail. The scripted source gives what it was
last told to give; a listing clears a failure of the connection that it was told before, and a
faulty answer goes before such a failure.
-/

namespace Switchboard.Alias

/-- Why no listing was fetched. -/
inductive FetchFault
  /-- No answer could be obtained. -/
  | transport (reason : String)
  /-- The answer was no success. -/
  | status (code : Nat) (body : String)
  /-- The answer was no listing. -/
  | listing (fault : Listing.Fault)
  deriving DecidableEq, Repr

namespace FetchFault

/-- The fault in words. -/
def message : FetchFault → String
  | transport reason => "alias listing transport error: " ++ reason
  | status code body => "alias listing failed with status " ++ toString code ++ ": " ++ body
  | listing fault => fault.message

/-- The fault in words, as the reason why the commands were not refreshed. -/
def refreshMessage (fault : FetchFault) : String :=
  "failed to retrieve commands: " ++ fault.message

end FetchFault

/-- The result of a fetch. -/
abbrev Fetched := Except FetchFault (List Definition)

/-- A source that gives what it is told to give. -/
structure Source where
  listing : List Definition := []
  /-- A faulty answer, if the last thing it was told was one. -/
  fault : Option FetchFault := none
  /-- Why the connection fails, if it does. -/
  failure : Option String := none
  /-- How many fetches were attempted. -/
  fetches : Nat := 0
  deriving Repr

namespace Source

/-- Gives a listing from now on. -/
def serve (source : Source) (listing : List Definition) : Source :=
  { source with listing, fault := none, failure := none }

/-- Fails from now on. -/
def fail (source : Source) (reason : String) : Source :=
  { source with fault := none, failure := some reason }

/-- Gives a faulty answer from now on. -/
def refuse (source : Source) (fault : FetchFault) : Source := { source with fault := some fault }

/-- Gives the listing that a body holds from now on, or the fault of the body. -/
def serveBody (source : Source) (body : String) : Source :=
  match Listing.decode body with
  | .ok listing => source.serve listing
  | .error fault => source.refuse (.listing fault)

/-- Fetches the listing. -/
def fetch (source : Source) : Fetched × Source :=
  let after := { source with fetches := source.fetches + 1 }
  match source.fault, source.failure with
  | some fault, _ => (.error fault, after)
  | none, some reason => (.error (.transport reason), after)
  | none, none => (.ok source.listing, after)

end Source

end Switchboard.Alias
