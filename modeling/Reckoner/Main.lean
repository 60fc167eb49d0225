import Reckoner.Console.Program

namespace Reckoner

namespace Command

-- Writes something down. A journal entry is stamped with the milliseconds since the start.
def put (started : Nat) (w : Console.Write) : IO Unit := do
  match w with
  | .out text => IO.print text
  | .err text => IO.eprint text
  | .log entry =>
    let now ← IO.monoMsNow
    IO.eprintln (toString (now - started) ++ "ms " ++ entry.text)

def putAll (started : Nat) (ws : List Console.Write) : IO Unit :=
  ws.forM (put started)

-- Reads up to the end of the line, or of the input.
partial def readLine (input : IO.FS.Stream) (line : ByteArray) : IO ByteArray := do
  let byte ← input.read 1
  if byte.isEmpty then return line
  else if byte.toList = [10] then return line ++ byte
  else readLine input (line ++ byte)

partial def converse (started : Nat) (c : Console) : IO Unit := do
  put started Console.prompt
  (← IO.getStdout).flush
  let line ← readLine (← IO.getStdin) .empty
  let (after, writes) := c.turn (if line.isEmpty then none else some (Program.decode line))
  putAll started writes
  match after with
  | some c => converse started c
  | none => return

def openFile (name : String) : IO Program.File := do
  try
    return .bytes (← IO.FS.readBinFile name)
  catch e => match e with
    | .noFileOrDirectory .. => return .missing
    | .inappropriateType .. => return .unreadable "Is a directory (os error 21)"
    | .permissionDenied .. => return .unreadable "Permission denied (os error 13)"
    | e => return .unreadable (toString e)

def run (arguments : List String) : IO UInt32 := do
  let started ← IO.monoMsNow
  match Arguments.ofList arguments with
  | .error instead =>
    let exit := Program.instead instead
    putAll started exit.writes
    return exit.code.toUInt32
  | .ok given =>
    let options := Program.optionsOf given
    let filter := Program.filterOf given.verbosity (← IO.getEnv "RUST_LOG")
    putAll started (Console.logged filter [Program.startEntry options])
    match Program.taskOf given with
    | .script name =>
      let exit := Program.runScript options filter name (← openFile name)
      putAll started exit.writes
      return exit.code.toUInt32
    | .conversation =>
      put started Console.greeting
      converse started (Program.conversation options filter)
      return 0

end Command

end Reckoner

def main (arguments : List String) : IO UInt32 :=
  Reckoner.Command.run arguments
