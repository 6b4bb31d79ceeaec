/-
  The arguments of the command: the path of a ROM, or a request for help.

  Options stand anywhere before a lone `--`; what follows that is taken as it
  is.  The first option in order that settles the matter does: a request for
  help, or one with a value it does not take.  Otherwise an unknown option, a
  missing path or a second one is a mistake.
-/
import Chip8.Text.Digit

namespace Chip8

/-- What the arguments ask for. -/
inductive Request where
  | help
  | mistake
  | run (rom : String)
deriving DecidableEq, Repr

/-- How a single argument is understood. -/
inductive Argument where
  | path (name : String)
  | help
  /-- an option with a value that it does not take -/
  | misused
  | unknown
deriving DecidableEq, Repr

namespace Argument

/-- An argument without a line feed at its end. -/
def withoutNewline (cs : List Char) : List Char :=
  if cs.getLast? = some '\n' then cs.dropLast else cs

/-- Whether an argument has the form of a negative number, which is a path.  The
    digits may be those of any script, and a line feed may follow. -/
def isNegativeNumber (cs : List Char) : Bool :=
  match withoutNewline cs with
  | '-' :: digits =>
    let whole := digits.takeWhile Text.isDecimalDigit
    match digits.dropWhile Text.isDecimalDigit with
    | [] => whole ≠ []
    | '.' :: places => places ≠ [] && places.all Text.isDecimalDigit
    | _ => false
  | _ => false

/-- The short option together with what follows its letter: more letters, perhaps
    behind an equals sign.  Every `h` asks for help again, and anything else is a
    value that the option does not take. -/
def ofShortHelp (rest : List Char) : Argument :=
  let letters := match rest with
    | '=' :: c :: cs => c :: cs
    | cs => cs
  if letters.all (· = 'h') then help else misused

/-- Whether a long option, cut at an equals sign, abbreviates the request for
    help. -/
def isLongHelp (cs : List Char) : Bool :=
  (cs.takeWhile (· ≠ '=')).isPrefixOf "--help".toList

/-- An argument before a lone `--`. -/
def ofString (s : String) : Argument :=
  match s.toList with
  | '-' :: '-' :: rest =>
    if isLongHelp ('-' :: '-' :: rest) then (if rest.contains '=' then misused else help)
    else if rest.contains ' ' then path s else unknown
  | '-' :: 'h' :: rest => ofShortHelp rest
  | ['-'] => path s
  | '-' :: rest =>
    if isNegativeNumber ('-' :: rest) || rest.contains ' ' then path s else unknown
  | _ => path s

end Argument

/-- The request made by arguments that have been understood, given the paths
    before them and whether an option was unknown. -/
def Request.ofArguments (paths : List String) (unknown : Bool) : List Argument → Request
  | [] =>
    match paths, unknown with
    | [rom], false => .run rom
    | _, _ => .mistake
  | .path name :: rest => ofArguments (paths ++ [name]) unknown rest
  | .help :: _ => .help
  | .misused :: _ => .mistake
  | .unknown :: rest => ofArguments paths true rest

/-- The request made by the arguments of the command. -/
def Request.parse (args : List String) : Request :=
  let before := args.takeWhile (· ≠ "--")
  let after := (args.dropWhile (· ≠ "--")).drop 1
  .ofArguments [] false (before.map .ofString ++ after.map .path)

end Chip8
