import Switchboard.Alias.Definition
import Switchboard.Alias.Recognizer
import Switchboard.Alias.Request
import Switchboard.Unicode.Case

/-!
# Snapshots of the command registry

A snapshot is one complete version of the registered commands, built from a listing. A format that
does not compile is left out, and an alias that is invalid or has no format left is left out too.

Formats and aliases keep the order in which they were first registered. One that is registered again
takes the place of the old one.
-/

namespace Switchboard.Alias

/-- Puts an item in the place of the one with the same key, or at the end. -/
def put {α : Type} (key : α → String) (item : α) : List α → List α
  | [] => [item]
  | old :: rest => if key old = key item then item :: rest else old :: put key item rest

/-- A version of the registered commands. -/
structure Snapshot where
  /-- The formats, compiled. -/
  recognizers : List Recognizer := []
  aliases : List Definition := []
  /-- When the snapshot was built, in seconds. -/
  builtAt : Nat
  deriving Repr

namespace Snapshot

/-- The snapshot without commands. -/
def empty (time : Nat) : Snapshot := { builtAt := time }

/-- The formats of an alias that compile. -/
def recognizersOf (definition : Definition) : List Recognizer :=
  definition.formats.filterMap fun format =>
    (Recognizer.compile definition.name format).toOption

/-- Registers an alias. -/
def add (snapshot : Snapshot) (definition : Definition) : Snapshot :=
  match definition.validate, recognizersOf definition with
  | .ok (), first :: rest =>
    { snapshot with
      recognizers :=
        (first :: rest).foldl
          (fun recognizers recognizer => put Recognizer.format recognizer recognizers)
          snapshot.recognizers
      aliases := put Definition.name definition snapshot.aliases }
  | _, _ => snapshot

/-- The snapshot of a listing. -/
def build (listing : List Definition) (time : Nat) : Snapshot := listing.foldl add (empty time)

/-- The compiled form of a format. -/
def recognizer? (snapshot : Snapshot) (format : String) : Option Recognizer :=
  snapshot.recognizers.find? fun recognizer => recognizer.format == format

/-- The alias of a name. -/
def alias? (snapshot : Snapshot) (name : String) : Option Definition :=
  snapshot.aliases.find? fun definition => definition.name == name

/-- The first format that recognizes a text. -/
def firstMatch (snapshot : Snapshot) (text : String) : Option Recognizer :=
  snapshot.recognizers.find? fun recognizer => recognizer.isMatch text

/-- How many formats are registered. -/
def size (snapshot : Snapshot) : Nat := snapshot.recognizers.length

/-- Whether no format is registered. -/
def isEmpty (snapshot : Snapshot) : Bool := snapshot.recognizers.isEmpty

/-- The description of an alias, unless it is blank. -/
def description? (snapshot : Snapshot) (name : String) : Option String :=
  ((snapshot.alias? name).bind Definition.description).filter fun text => !Text.isBlankText text

/-- The line of help for a format. -/
def helpEntry (snapshot : Snapshot) (bot : String) (recognizer : Recognizer) : String :=
  match snapshot.description? recognizer.owner with
  | some description => bot ++ " " ++ recognizer.format ++ " - " ++ description
  | none => bot ++ " " ++ recognizer.format

/-- The lines of help, one for each format. -/
def helpEntries (snapshot : Snapshot) (bot : String) : List String :=
  snapshot.recognizers.map (snapshot.helpEntry bot)

/-- Resolves a chat line, in lower case, to the first format that recognizes it. A blank line is no
command. -/
def resolve (snapshot : Snapshot) (line : String) : Option Resolved :=
  if Text.isBlankText line then none
  else
    let command := Unicode.Case.lowercase line
    (snapshot.firstMatch command).map fun recognizer =>
      ⟨recognizer.owner, recognizer.format, command⟩

end Snapshot

end Switchboard.Alias
