/-
  Log messages: how grave they are, which of them a threshold lets through, and
  how a console shows them.

  * a level is a name; case does not count, and a name that is not one of the
    five severities ranks as information (`levelRank`);
  * a `Console` has a name and a threshold; `Console.log` is the text it writes
    for a message, nothing if the message ranks below the threshold;
  * a `LogEntry` is a message of one of the program's own parts; `shown` is what
    is written for those that a common threshold lets through, and `printed` the
    same as lines, of which a message with a line end has several.
-/
import Chip8.Text.Lines
import Chip8.Text.Number
import Chip8.Text.Uppercase

namespace Chip8

/-! ## Levels -/

/-- The severities of messages. -/
inductive Severity where
  | debug | info | warning | error | critical
deriving DecidableEq, Repr

namespace Severity

/-- All severities, the least grave first. -/
def all : List Severity := [debug, info, warning, error, critical]

/-- The name of a severity as a level. -/
def name : Severity → String
  | debug => "DEBUG"
  | info => "INFO"
  | warning => "WARNING"
  | error => "ERROR"
  | critical => "CRITICAL"

/-- The position among the severities. -/
def rank : Severity → Nat
  | debug => 0
  | info => 1
  | warning => 2
  | error => 3
  | critical => 4

/-- The terminal sequence that turns on the colour of a severity. -/
def colour : Severity → String
  | debug => "\x1b[36m"
  | info => "\x1b[32m"
  | warning => "\x1b[33m"
  | error => "\x1b[31m"
  | critical => "\x1b[35m"

end Severity

/-- The terminal sequence that ends a colour. -/
def colourReset : String := "\x1b[0m"

/-- The severity that an upper-case level names. -/
def severity? (level : String) : Option Severity :=
  Severity.all.find? fun s => s.name == level

/-- The rank of an upper-case level. -/
def levelRank (level : String) : Nat := ((severity? level).map Severity.rank).getD 1

/-! ## Consoles -/

/-- A place that messages are written to. -/
structure Console where
  name : String
  /-- the least grave level that is written, in upper case -/
  threshold : String
  colours : Bool
  stamps : Bool
deriving DecidableEq, Repr

/-- The threshold to begin with: the level asked for unless it is empty, else the
    environment's, else information. -/
def initialThreshold (asked environment : Option String) : String :=
  Text.upper <| match asked with
    | none | some "" => environment.getD "INFO"
    | some level => level

namespace Console

/-- A console whose output goes to a terminal or not.  Colours need a
    terminal. -/
def start (name : String) (asked environment : Option String)
    (colours stamps terminal : Bool) : Console :=
  ⟨name, initialThreshold asked environment, colours && terminal, stamps⟩

/-- The same console with another threshold. -/
def setLevel (c : Console) (level : String) : Console :=
  { c with threshold := Text.upper level }

/-- Whether a message of a level is written. -/
def isEnabledFor (c : Console) (level : String) : Bool :=
  levelRank c.threshold ≤ levelRank (Text.upper level)

/-- The terminal sequence before the level: none for a level without a colour,
    and the end of colour for the level of that name. -/
def levelColour (level : String) : String :=
  match severity? (Text.upper level) with
  | some s => s.colour
  | none => if Text.upper level = "RESET" then colourReset else ""

/-- The level in brackets, right-justified in eight places. -/
def levelField (c : Console) (level : String) : String :=
  let field := "[" ++ String.ofList (level.toList.leftpad 8 ' ') ++ "]"
  if c.colours then levelColour level ++ field ++ colourReset else field

/-- The time since the console was opened, given in hundredths of a second. -/
def stampField (c : Console) (time : Int) : String :=
  if c.stamps then "[" ++ String.ofList (Text.hundredths 8 time) ++ "s]" else ""

/-- The line of a message. -/
def format (c : Console) (time : Int) (level message : String) : String :=
  c.stampField time ++ c.levelField level ++ "[" ++ c.name ++ "] " ++ message

/-- What is written for a message. -/
def log (c : Console) (time : Int) (level message : String) : Option String :=
  if c.isEnabledFor level then some (c.format time level message) else none

end Console

/-! ## Messages of the program -/

/-- A message of a part of the program. -/
structure LogEntry where
  source : String
  severity : Severity
  text : String
deriving DecidableEq, Repr

namespace LogEntry

/-- What is written for an entry on a plain console. -/
def line (threshold : String) (e : LogEntry) : Option String :=
  Console.log ⟨e.source, threshold, false, false⟩ 0 e.severity.name e.text

/-- What is written for the entries that a threshold lets through, entry by
    entry. -/
def shown (threshold : String) (es : List LogEntry) : List String := es.filterMap (line threshold)

/-- The lines on the console after these entries.  A line feed follows each. -/
def printed (threshold : String) (es : List LogEntry) : List String :=
  (shown threshold es).flatMap fun s => (Text.lines (s.toList ++ ['\n'])).map String.ofList

end LogEntry

/-! ## Shared consoles -/

/-- The consoles made so far, the first one first. -/
abbrev ConsoleRegistry := List Console

namespace ConsoleRegistry

/-- The console of a name and its position, made with the environment's level if
    there is none yet. -/
def get (r : ConsoleRegistry) (name : String) (environment : Option String) :
    ConsoleRegistry × Nat × Console :=
  match r.zipIdx.find? fun e => e.1.name == name with
  | some (c, k) => (r, k, c)
  | none =>
    let c := Console.start name none environment false true false
    (r ++ [c], r.length, c)

end ConsoleRegistry

end Chip8
