import Switchboard.Console

/-!
# The command line

Reads the configuration from the environment and chats over the standard streams. No network is within
reach of this program, so that listings, executions and tokens fail for want of an answer.
-/

namespace Switchboard

/-- All bytes of a stream, behind those read so far. -/
partial def readAll (stream : IO.FS.Stream) (front : ByteArray) : IO ByteArray := do
  let chunk ← stream.read 65536
  if chunk.isEmpty then return front else readAll stream (front ++ chunk)

/-- The values of some variables of the process. -/
def environment (names : List String) : IO Environment := do
  let table ← names.mapM fun name => do return (name, ← IO.getEnv name)
  return fun name => (table.lookup name).join

/-- Runs the relay, and tells the status of the process. -/
def runProcess : IO UInt32 := do
  let env ← environment Console.variableNames
  let input ← readAll (← IO.getStdin) ByteArray.empty
  let (exit, world) :=
    Console.run env (Service.Exchange.offline "no network is within reach") input.toList ()
  (← IO.getStdout).write ⟨world.output.written.toArray⟩
  if let some message := exit.message? then IO.eprintln message
  return UInt32.ofNat exit.status

end Switchboard

/-- Runs the relay. -/
def main : IO UInt32 := Switchboard.runProcess
