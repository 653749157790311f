import Switchboard.Json.Record

/-!
# Resolved commands and execution requests

A chat line that invokes an alias is resolved to the name of the alias and the format that recognised
the line. The request sent to the automation service adds who typed the line, where, and on which
channel the result is to be reported.
-/

namespace Switchboard.Alias

/-- A chat line resolved to a format of an alias. -/
structure Resolved where
  aliasName : String
  format : String
  /-- The line in lower case. -/
  command : String
  deriving DecidableEq, Repr

/-- The fields of a resolved line. -/
def Resolved.record : Json.Record Resolved where
  name := "ResolvedMatch"
  types := [String, String, String]
  fields :=
    ({ key := "alias_name", codec := .text }, { key := "format", codec := .text },
      { key := "raw_text", codec := .text }, ())
  parts resolved := (resolved.aliasName, resolved.format, resolved.command, ())
  make := fun (aliasName, format, command, _) => ⟨aliasName, format, command⟩

/-- Resolved lines as JSON objects. -/
def Resolved.codec : Json.Codec Resolved := Resolved.record.codec

/-- Who typed a command, and where. -/
structure Origin where
  user : String
  room : String
  deriving DecidableEq, Repr

/-- A request to execute an alias. -/
structure Request where
  aliasName : String
  format : String
  command : String
  user : String
  /-- The room in which the command was typed. -/
  room : String
  /-- The channel on which the result is reported. -/
  channel : String
  deriving DecidableEq, Repr

namespace Request

/-- The request for a resolved line. -/
def ofResolved (resolved : Resolved) (origin : Origin) (channel : String) : Request :=
  ⟨resolved.aliasName, resolved.format, resolved.command, origin.user, origin.room, channel⟩

/-- The fields of a request. -/
def record : Json.Record Request where
  name := "ExecutionRequest"
  types := [String, String, String, String, String, String]
  fields :=
    ({ key := "name", codec := .text }, { key := "format", codec := .text },
      { key := "command", codec := .text }, { key := "user", codec := .text },
      { key := "source_channel", codec := .text },
      { key := "notification_channel", codec := .text }, ())
  parts r := (r.aliasName, r.format, r.command, r.user, r.room, r.channel, ())
  make := fun (aliasName, format, command, user, room, channel, _) =>
    ⟨aliasName, format, command, user, room, channel⟩

/-- Requests as JSON objects. -/
def codec : Json.Codec Request := record.codec

end Request

end Switchboard.Alias
