/-
  Interactive sessions: a ROM is read and loaded, a window opened, and the
  machine stepped once per poll of the keyboard until the user quits or the
  program fails.

  A session is a function of what happens outside: the host, the source of the
  random bytes and the batches of input events in the order they are polled (after
  the last one the user quits).  Its `Transcript` is all it shows: the messages, the
  frames brought to the window and the waits between cycles.

  Messages that carry the name of the program may be more than the output can take
  (`Session.say`).  All others are made of ASCII characters, which every output takes.

  * `Live.turn` is one poll and the cycle after it; `Session.loop` takes one turn
    after another behind the opened window;
  * `Session.run` is the whole;
  * `command` interprets the arguments of the command.
-/
import Chip8.Arguments
import Chip8.Host
import Chip8.Keyboard
import Chip8.Tracer

namespace Chip8

/-! ## Outcomes -/

/-- What a session may fail with instead of ending with an exit code. -/
inductive SessionFault where
  | machine (f : Fault)
  | render (f : RenderFault)
  | window (f : WindowFault)
  /-- a program that is not read -/
  | read (f : ReadFault)
  /-- a message that the output cannot take, and why -/
  | write (text : String)
deriving DecidableEq, Repr

/-- The text of a failure. -/
def SessionFault.message : SessionFault → String
  | machine f => f.message
  | render f => f.message
  | window f => f.message
  | read f => f.message
  | write text => text

/-- How a session ends. -/
inductive Ending where
  | exit (code : Nat)
  | raised (f : SessionFault)
deriving DecidableEq, Repr

/-- What a session shows, in order. -/
structure Transcript where
  entries : List LogEntry
  frames : List Frame
  waits : List Int
  ending : Ending

namespace Transcript

/-- A transcript that begins with some messages, frames and waits. -/
def after (entries : List LogEntry) (frames : List Frame) (waits : List Int)
    (rest : Transcript) : Transcript :=
  ⟨entries ++ rest.entries, frames ++ rest.frames, waits ++ rest.waits, rest.ending⟩

/-- A transcript of messages and an ending alone. -/
def final (entries : List LogEntry) (ending : Ending) : Transcript := ⟨entries, [], [], ending⟩

end Transcript

/-! ## The session -/

/-- What the user chose for a session, and what it runs on. -/
structure Session where
  host : Host
  rom : String
  /-- the side of the block of a pixel in the window -/
  scale : Int
  /-- the wait after every cycle, in milliseconds -/
  delay : Int
  scheme : String
  /-- whether to trace; without a choice the environment decides -/
  trace : Option Bool
  environmentTrace : Option String
  /-- the source of the random bytes -/
  rng : Random.Source

/-- The session of a ROM with nothing else chosen. -/
def Session.ofRom (host : Host) (rom : String) (environmentTrace : Option String)
    (rng : Random.Source) : Session where
  host := host
  rom := rom
  scale := 20
  delay := 2
  scheme := "white"
  trace := none
  environmentTrace := environmentTrace
  rng := rng

/-- The parts of a running session that change. -/
structure Live where
  machine : Machine
  keyboard : Keyboard
  tracer : Tracer

/-- What a poll of the keyboard leads to. -/
inductive Turn where
  /-- the user quits -/
  | quit
  /-- the machine fails to complete a cycle -/
  | failed (f : Fault)
  /-- the machine completes a cycle; the keyboard is as the poll left it -/
  | completed (c : Cycle) (keyboard : Keyboard)

namespace Live

/-- Poll the keyboard and step the machine with the keys that are held. -/
def turn (l : Live) (batch : List InputEvent) : Turn :=
  match l.keyboard.poll batch with
  | (_, none) => .quit
  | (keyboard, some keys) =>
    match l.machine.step (some (.ofVector keys)) with
    | .error f => .failed f
    | .ok next => .completed ⟨l.machine, next.2, next.1⟩ keyboard

/-- The running session after a cycle whose drawing has been shown. -/
def next (l : Live) (c : Cycle) (keyboard : Keyboard) : Live :=
  ⟨{ c.after with drawPending := false }, keyboard, (l.tracer.observe c.after).1⟩

/-- The messages about a cycle: the note on its word, then its trace line. -/
def entries (l : Live) (c : Cycle) : List LogEntry :=
  Cycle.notices [c] ++ (l.tracer.observe c.after).2

end Live

namespace Session

/-- A message of the session itself. -/
def entry (severity : Severity) (text : String) : LogEntry := ⟨"chip8vm", severity, text⟩

/-- The end of a session that the user quits after some cycles. -/
def stop (cycles : Nat) : Transcript :=
  .final [entry .info ("Stopped after " ++ Text.int cycles ++ " cycles")] (.exit 0)

/-- The message about a program that fails at an address. -/
def haltedEntry (pc : UInt16) (f : Fault) : LogEntry :=
  entry .critical ("Execution halted at 0x" ++ String.ofList (Text.hex 3 pc.toNat) ++ ": " ++
    f.message)

/-- The end on a failing cycle: a failure of the program is reported with the
    address before the cycle. -/
def halt (m : Machine) (f : Fault) : Transcript :=
  if f.isMachine then .final [haltedEntry m.pc f] (.exit 1) else .final [] (.raised (.machine f))

/-- The frame that shows a display. -/
def frame (s : Session) (p : Palette) (d : Display) : Except RenderFault Frame :=
  Frame.paint s.host.room d.toGrid s.scale p

/-- The frames that a cycle brings to the window: one if the display was drawn
    on. -/
def newFrames (s : Session) (w : Window) (p : Palette) (m : Machine) :
    Except SessionFault (List Frame) :=
  if m.drawPending then
    match s.frame p m.display with
    | .error f => .error (.render f)
    | .ok f =>
      match s.host.screen.show? w f with
      | .error f => .error (.window f)
      | .ok f => .ok [f]
  else .ok []

/-- The session behind the opened window, one batch of events per poll. -/
def loop (s : Session) (w : Window) (p : Palette) (l : Live) : List (List InputEvent) → Transcript
  | [] => stop l.tracer.count
  | batch :: batches =>
    match l.turn batch with
    | .quit => stop l.tracer.count
    | .failed f => halt l.machine f
    | .completed c keyboard =>
      match s.newFrames w p c.after with
      | .error f => .final (l.entries c) (.raised f)
      | .ok frames =>
        (s.loop w p (l.next c keyboard) batches).after (l.entries c) frames [s.delay]

/-- The session behind a window that is opened all dark. -/
def start (s : Session) (w : Window) (p : Palette) (m : Machine)
    (batches : List (List InputEvent)) : Transcript :=
  (s.loop w p ⟨m, .start none, .start s.trace s.environmentTrace⟩ batches).after
    [] [w.fill p.dark] []

/-- The window of a session. -/
def window? (s : Session) : Except WindowFault Window :=
  s.host.screen.window? (64 * s.scale) (32 * s.scale)

/-- The session of a machine that has its program. -/
def play (s : Session) (m : Machine) (batches : List (List InputEvent)) : Transcript :=
  match Palette.ofName s.scheme with
  | .error f => .final [] (.raised (.render f))
  | .ok p =>
    match s.window? with
    | .error f => .final [] (.raised (.window f))
    | .ok w => s.start w p m batches

/-- A message that carries the name of the program, and what follows it unless the
    output cannot take it. -/
def say (s : Session) (e : LogEntry) (rest : Transcript) : Transcript :=
  match s.host.write e with
  | .ok () => rest.after [e] [] []
  | .error text => .final [] (.raised (.write text))

/-- The session of a program with some bytes. -/
def afterReading (s : Session) (bytes : List UInt8) (batches : List (List InputEvent)) :
    Transcript :=
  match (Machine.initial s.rng).load (bytes.map fun b => (b.toNat : Int)) with
  | .error f => s.say (unloadedEntry s.rom f) (.final [] (.exit 1))
  | .ok m => s.play m batches

/-- The whole session. -/
def run (s : Session) (batches : List (List InputEvent)) : Transcript :=
  match s.host.read s.rom with
  | .error (.refused text) => s.say (unopenedEntry s.rom text) (.final [] (.exit 1))
  | .error f => .final [] (.raised (.read f))
  | .ok bytes => s.say (romEntry s.rom bytes) (s.afterReading bytes batches)

end Session

/-! ## The command -/

/-- What the command does with its arguments: it ends at once with an exit code,
    or runs the session of a ROM. -/
def command (args : List String) : Nat ⊕ String :=
  match Request.parse args with
  | .help => .inl 0
  | .mistake => .inl 2
  | .run rom => .inr rom

end Chip8
