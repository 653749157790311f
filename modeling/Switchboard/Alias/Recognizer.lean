import Switchboard.Alias.Format
import Switchboard.Pattern.Compiled

/-!
# Recognition of commands

A format is compiled to a recognizer, which tells whether a text is a command of that format, without
regard to case, and takes the values of the placeholders and the pairs of the trailer out of it.
-/

namespace Switchboard.Alias

/-- The values in a command. -/
structure Parameters where
  /-- The placeholders with their values, in the order of the format. -/
  bindings : List (String × String)
  /-- The pairs of the trailer, in the order of their keys. -/
  extra : List (String × String)
  deriving DecidableEq, Repr

namespace Parameters

/-- The value of the first placeholder of a name. -/
def binding? (parameters : Parameters) (name : String) : Option String :=
  (parameters.bindings.find? fun binding => binding.1 == name).map Prod.snd

/-- Gives a key a value in pairs that are in the order of their keys. -/
def insertSorted (key value : String) : List (String × String) → List (String × String)
  | [] => [(key, value)]
  | (k, v) :: rest =>
    if key = k then (k, value) :: rest
    else if key < k then (key, value) :: (k, v) :: rest
    else (k, v) :: insertSorted key value rest

/-- The key and the value in a word that holds an equals sign. -/
def pair? (word : List Char) : Option (String × String) :=
  (Text.Split.once ['='] word).map fun (key, value) => (String.ofList key, String.ofList value)

/-- The pairs in a trailer, in the order of their keys. The last value of a key counts. -/
def ofTrailer (trailer : List Char) : List (String × String) :=
  ((Text.Blank.words trailer).filterMap pair?).foldl
    (fun pairs (key, value) => insertSorted key value pairs) []

/-- The values of placeholders, given their names and the number of the first. A placeholder that
takes no part in the match has no value. -/
def bindingsFrom (groups : Pattern.Groups) : (index : Nat) → List String → List (String × String)
  | _, [] => []
  | index, name :: rest =>
    match groups.get? (Format.groupName index) with
    | some value => (name, String.ofList value) :: bindingsFrom groups (index + 1) rest
    | none => bindingsFrom groups (index + 1) rest

/-- The values in a match of a format with the given placeholders. -/
def ofGroups (placeholders : List String) (groups : Pattern.Groups) : Parameters :=
  { bindings := bindingsFrom groups 0 placeholders
    extra := ((groups.get? Format.trailerName).map ofTrailer).getD [] }

end Parameters

/-- A format of an alias, compiled. -/
structure Recognizer where
  format : String
  /-- The name of the alias. -/
  owner : String
  /-- The names of the placeholders, in order. -/
  placeholders : List String
  pattern : Pattern
  deriving Repr

namespace Recognizer

/-- Why a format was not compiled. -/
inductive Fault
  | emptyFormat (owner : String)
  | invalidPattern (owner format : String) (fault : Pattern.Fault)

/-- The fault in words. -/
def Fault.message : Fault → String
  | emptyFormat owner => "skipped empty format for alias '" ++ owner ++ "'"
  | invalidPattern owner format fault =>
    "format '" ++ format ++ "' of alias '" ++ owner ++ "' does not compile: " ++ fault.message

/-- Compiles a format of an alias. -/
def compile (owner format : String) : Except Fault Recognizer :=
  if format.isEmpty then .error (.emptyFormat owner)
  else
    match Pattern.compile (Format.pattern format) with
    | .ok pattern => .ok ⟨format, owner, Format.placeholders format, pattern⟩
    | .error fault => .error (.invalidPattern owner format fault)

/-- Whether a text is a command of the format. -/
def isMatch (recognizer : Recognizer) (text : String) : Bool :=
  recognizer.pattern.isMatch text.toList

/-- The values in a command of the format. -/
def extract (recognizer : Recognizer) (text : String) : Option Parameters :=
  (recognizer.pattern.groups? text.toList).map (Parameters.ofGroups recognizer.placeholders)

end Recognizer

end Switchboard.Alias
