/-
  The command: run a ROM file.

  Input events come from standard input, one line per poll of the keyboard:
  `+q` and `-q` are the key q going down and coming up, `quit` ends the session,
  and so does the end of the input.  The messages of the session go to standard
  output.
-/
import Chip8.Session

namespace Chip8

/-- The event that a word stands for. -/
def InputEvent.ofWord (w : String) : InputEvent :=
  match w.toList with
  | '+' :: key => .down (String.ofList key)
  | '-' :: key => .up (String.ofList key)
  | _ => if w = "quit" then .quit else .other

/-- The events of a line, which blanks separate. -/
def InputEvent.ofLine (line : String) : List InputEvent :=
  ((line.toList.splitOnP Char.isWhitespace).filter (· ≠ [])).map fun w => ofWord (String.ofList w)

/-- The cause behind a failure to read a file, if it is one of those of paths.  The
    number of an error comes with either sign. -/
def FileCause.ofIOError? : IO.Error → Option FileCause
  | .noFileOrDirectory .. => some .noSuchFile
  | .permissionDenied .. => some .permissionDenied
  | .inappropriateType _ code _ =>
    if code = 20 ∨ code = 0 - 20 then some .notADirectory else some .isADirectory
  | _ => none

/-- Why the file of a path is not read. -/
def ReadFault.ofIOError (path : String) (e : IO.Error) : ReadFault :=
  match FileCause.ofIOError? e with
  | some cause => (FileError.mk cause path).toFault
  | none => .refused (toString e)

/-- The host that reads one file, and what that gave. -/
def fileHost (path : String) : IO Host := do
  let bytes ← try
      pure (.ok (← IO.FS.readBinFile path).toList)
    catch e => pure (.error (.ofIOError path e))
  return { Host.ofFiles [] with read := fun _ => bytes }

/-- The batches of events on the lines of a stream. -/
partial def readBatches (input : IO.FS.Stream) (before : Array (List InputEvent)) :
    IO (List (List InputEvent)) := do
  let line ← input.getLine
  if line.isEmpty then return before.toList
  readBatches input (before.push (InputEvent.ofLine line))

/-- Run a session and print its messages; the result is the exit code. -/
def runSession (s : Session) : IO UInt32 := do
  let batches ← readBatches (← IO.getStdin) #[]
  let shown := s.run batches
  let threshold := initialThreshold none (← IO.getEnv "CHIP8_LOG_LEVEL")
  for line in LogEntry.shown threshold shown.entries do
    IO.println line
  match shown.ending with
  | .exit code => return UInt32.ofNat code
  | .raised f =>
    IO.eprintln f.message
    return 1

end Chip8

/-- The command. -/
def main (args : List String) : IO UInt32 := do
  match Chip8.command args with
  | .inl code =>
    IO.eprintln "usage: chip8vm [-h] rom"
    return UInt32.ofNat code
  | .inr rom =>
    let host ← Chip8.fileHost rom
    let seed ← IO.rand 0 0x7FFFFFFF
    Chip8.runSession
      (.ofRom host rom (← IO.getEnv "CHIP8_TRACE") (.ofSeed (UInt32.ofNat seed)))
