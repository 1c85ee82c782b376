import InvocationClient.Loop
import InvocationClient.Transport.Recording
import Std.Time

/-! # Command line

Runs the runtime loop with the echoing handler on replies that are read from standard input, one a
line. The arguments are the version of the language runtime; the environment says the rest.
-/

namespace InvocationClient.CommandLine

def environment : IO Environment := do
  let names :=
    [Environment.endpointVariable, Environment.logLevelVariable, Environment.handlerVariable]
  names.filterMapM fun name => do return (← IO.getEnv name).map (name, ·)

def seconds : IO Float := do
  let now ← Std.Time.Timestamp.now
  return Float.ofInt now.toNanosecondsSinceUnixEpoch.val / 1000000000.0

def timeText : IO String := do
  return (← Std.Time.DateTime.now).format "uuuu-MM-dd HH:mm:ss,SSS"

partial def replies (input : IO.FS.Stream) (done : Array Http.Reply) : IO (List Http.Reply) := do
  let line ← input.getLine
  if line.isEmpty then return done.toList
  match Http.Recording.ofLine? line with
  | some reply => replies input (done.push reply)
  | none => throw (IO.userError "not a reply")

def showRecord (time : String) : Record → IO Unit
  | .console name level text => IO.eprint (consoleLine time name level text)
  | .stray text => IO.eprintln text
  | _ => return

def perform (version : String) : IO UInt32 := do
  let env ← environment
  let replies ← replies (← IO.getStdin) #[]
  let run := Loop.start env version (← seconds) {} replies
  let time ← timeText
  run.records.forM (showRecord time)
  IO.print run.output
  match run.result with
  | .ok () => return 0
  | .error f =>
    IO.eprintln (f.kind ++ ": " ++ f.message)
    return 1

end InvocationClient.CommandLine

def main : List String → IO UInt32
  | [version] => InvocationClient.CommandLine.perform version
  | _ => do
    IO.eprintln "usage: runtime VERSION < REPLIES"
    return 2
