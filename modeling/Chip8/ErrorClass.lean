/-
  The classes of the errors of the interpreter.

  * an `ErrorClass` stands below others (`above`); below the base class all do
    (`isA_base`);
  * `ErrorClass.construct` makes an error of some arguments: its text, and the
    arguments that it keeps by name;
  * `construct_names`: an error keeps a value under every name of its class.
-/
import Chip8.Text.Quoted

namespace Chip8

/-- The classes of errors of the interpreter. -/
inductive ErrorClass where
  /-- the class above all others -/
  | base
  | romTooLarge
  /-- the class above the misuses of the call stack -/
  | stack
  | stackOverflow
  | stackUnderflow
  | memoryBounds
deriving DecidableEq, Repr

namespace ErrorClass

/-- The name of a class. -/
def name : ErrorClass → String
  | base => "Chip8Error"
  | romTooLarge => "RomTooLargeError"
  | stack => "StackError"
  | stackOverflow => "StackOverflowError"
  | stackUnderflow => "StackUnderflowError"
  | memoryBounds => "MemoryBoundsError"

/-- The classes above, the nearest first. -/
def above : ErrorClass → List ErrorClass
  | base => []
  | romTooLarge | stack | memoryBounds => [base]
  | stackOverflow | stackUnderflow => [stack, base]

/-- The general classes above, by name: a program that is too long is a wrong value
    too. -/
def general : ErrorClass → List String
  | romTooLarge => ["ValueError", "Exception", "BaseException", "object"]
  | _ => ["Exception", "BaseException", "object"]

/-- The names of a class and of all above it, the nearest first. -/
def lineage (c : ErrorClass) : List String := (c :: c.above).map name ++ c.general

/-- Whether a class is another one or stands below it. -/
def isA (c d : ErrorClass) : Bool := (c :: c.above).contains d

theorem isA_base (c : ErrorClass) : c.isA base = true := by
  cases c <;> rfl

end ErrorClass

/-! ## Arguments -/

/-- What an error may be made of. -/
inductive ErrorArgument where
  | text (s : String)
  | int (v : Int)
  | bool (b : Bool)
  | none
deriving DecidableEq, Repr

/-- The causes for which no error is made. -/
inductive ArgumentFault where
  /-- arguments of these names are missing -/
  | missing (c : ErrorClass) (names : List String)
  /-- a class that takes from `fewest` to `most` arguments is given more -/
  | tooMany (c : ErrorClass) (fewest most given : Nat)
  /-- an argument that has no digits -/
  | notNumber (a : ErrorArgument)
deriving DecidableEq, Repr

namespace ArgumentFault

/-- The text of a cause.  The error itself counts as an argument that is given. -/
def message : ArgumentFault → String
  | missing c [a] => c.name ++ ".__init__() missing 1 required positional argument: '" ++ a ++ "'"
  | missing c names => c.name ++ ".__init__() missing " ++ Text.int names.length ++
      " required positional arguments: '" ++ String.intercalate "' and '" names ++ "'"
  | tooMany c fewest most given => c.name ++ ".__init__() takes " ++
      (if fewest = most then Text.int (most + 1)
      else "from " ++ Text.int (fewest + 1) ++ " to " ++ Text.int (most + 1)) ++
      " positional arguments but " ++ Text.int (given + 1) ++ " were given"
  | notNumber (.text _) => "Unknown format code 'X' for object of type 'str'"
  | notNumber _ => "unsupported format string passed to NoneType.__format__"

end ArgumentFault

namespace ErrorArgument

/-- An argument inside a text. -/
def plain : ErrorArgument → String
  | text s => s
  | int v => Text.int v
  | bool true => "True"
  | bool false => "False"
  | none => "None"

/-- An argument among others. -/
def shown : ErrorArgument → String
  | text s => Text.quoted s
  | a => a.plain

/-- An argument in at least four hexadecimal digits. -/
def hex : ErrorArgument → Except ArgumentFault (List Char)
  | int v => .ok (Text.hex 4 v)
  | bool b => .ok (Text.hex 4 b.toNat)
  | a => .error (.notNumber a)

/-- The text of an error that is nothing but its arguments. -/
def listText : List ErrorArgument → String
  | [] => ""
  | [a] => a.plain
  | as => "(" ++ String.intercalate ", " (as.map shown) ++ ")"

end ErrorArgument

/-! ## Errors -/

/-- An error: its text, and what it keeps by name. -/
structure BuiltError where
  message : String
  attributes : List (String × ErrorArgument)
deriving DecidableEq, Repr

/-- The text about a program of some size. -/
def sizeText (size limit : String) : String :=
  "ROM is " ++ size ++ " bytes, at most " ++ limit ++ " bytes fit in memory"

/-- The text about an operation on some bytes from an address. -/
def boundsText (operation : String) (address : List Char) (length : String) : String :=
  operation ++ ": access of " ++ length ++ " byte(s) at 0x" ++ String.ofList address ++
    " exceeds memory"

/-- The parameters of a class: those without a default come first. -/
structure Signature where
  needed : List String
  optional : List (String × ErrorArgument)
deriving DecidableEq, Repr

namespace Signature

/-- The names of all parameters. -/
def names (g : Signature) : List String := g.needed ++ g.optional.map Prod.fst

/-- The values of the parameters: the arguments of an error, then the defaults. -/
def values (g : Signature) (c : ErrorClass) (args : List ErrorArgument) :
    Except ArgumentFault (List ErrorArgument) :=
  if args.length < g.needed.length then .error (.missing c (g.needed.drop args.length))
  else if g.names.length < args.length then
    .error (.tooMany c g.needed.length g.names.length args.length)
  else .ok (args ++ (g.optional.drop (args.length - g.needed.length)).map Prod.snd)

theorem length_values {g : Signature} {c : ErrorClass} {args vs : List ErrorArgument}
    (h : g.values c args = .ok vs) : vs.length = g.names.length := by
  unfold values at h
  by_cases hfew : args.length < g.needed.length
  · rw [if_pos hfew] at h
    cases h
  by_cases hmany : g.names.length < args.length
  · rw [if_neg hfew, if_pos hmany] at h
    cases h
  rw [if_neg hfew, if_neg hmany] at h
  cases h
  simp only [names, List.length_append, List.length_map, List.length_drop] at hmany ⊢
  omega

end Signature

namespace ErrorClass

/-- The parameters of a class, unless it takes any arguments. -/
def signature? : ErrorClass → Option Signature
  | romTooLarge => some ⟨["size", "limit"], []⟩
  | memoryBounds => some ⟨["operation", "address"], [("length", .int 1)]⟩
  | _ => none

/-- The text of an error with some values. -/
def text (c : ErrorClass) (vs : List ErrorArgument) : Except ArgumentFault String :=
  match c, vs with
  | romTooLarge, [size, limit] => .ok (sizeText size.plain limit.plain)
  | memoryBounds, [operation, address, length] =>
    address.hex.map fun digits => boundsText operation.plain digits length.plain
  | _, vs => .ok (ErrorArgument.listText vs)

/-- The values that an error of some arguments has. -/
def values (c : ErrorClass) (args : List ErrorArgument) :
    Except ArgumentFault (List ErrorArgument) :=
  match c.signature? with
  | none => .ok args
  | some g => g.values c args

/-- The names under which an error keeps its values. -/
def names (c : ErrorClass) : List String := (c.signature?.map Signature.names).getD []

/-- Make an error of some arguments. -/
def construct (c : ErrorClass) (args : List ErrorArgument) : Except ArgumentFault BuiltError := do
  let vs ← c.values args
  let message ← c.text vs
  return ⟨message, c.names.zip vs⟩

/-- An error keeps a value under every name of its class. -/
theorem construct_names {c : ErrorClass} {args : List ErrorArgument} {e : BuiltError}
    (h : c.construct args = .ok e) : e.attributes.map Prod.fst = c.names := by
  unfold construct at h
  cases hv : c.values args with
  | error f => rw [hv] at h; cases h
  | ok vs =>
    rw [hv] at h
    simp only [bind, Except.bind] at h
    cases ht : c.text vs with
    | error f => rw [ht] at h; cases h
    | ok message =>
      rw [ht] at h
      cases h
      refine List.map_fst_zip ?_
      unfold names
      unfold values at hv
      cases hg : c.signature? with
      | none => exact Nat.zero_le _
      | some g =>
        rw [hg] at hv
        exact Nat.le_of_eq (Signature.length_values hv).symm

end ErrorClass

end Chip8
