/-
  The keyboard: which of the sixteen keys are held, tracked through batches of
  input events.

  * a `KeyMap` says which hexadecimal key a key of the keyboard stands for; some
    keys have two names (`keyName`);
  * `Keyboard.poll` takes in a batch: it gives the keypad at its end, or none
    once the user quits; the events behind that are lost, those before it count;
  * `poll_append`: a batch without a quit may be split anywhere.
-/
import Chip8.Machine

namespace Chip8

/-- Second names of keys, each with the first name of its key. -/
def keySynonyms : List (String × String) :=
  [("LMETA", "LGUI"), ("RMETA", "RGUI"), ("LSUPER", "LGUI"), ("RSUPER", "RGUI"),
   ("NUMLOCK", "NUMLOCKCLEAR"), ("SCROLLOCK", "SCROLLLOCK"), ("PRINT", "PRINTSCREEN"),
   ("BREAK", "PAUSE"), ("EURO", "CURRENCYUNIT"),
   ("KP0", "KP_0"), ("KP1", "KP_1"), ("KP2", "KP_2"), ("KP3", "KP_3"), ("KP4", "KP_4"),
   ("KP5", "KP_5"), ("KP6", "KP_6"), ("KP7", "KP_7"), ("KP8", "KP_8"), ("KP9", "KP_9")]

/-- The first name of the key that a name stands for. -/
def keyName (name : String) : String := (keySynonyms.lookup name).getD name

/-- Keys of the keyboard, by first name, and the hexadecimal keys they stand for;
    the first entry of a key counts. -/
abbrev KeyMap := List (String × Nibble)

/-- The map of keys by any of their names; the last entry of a key counts. -/
def KeyMap.ofNames (entries : List (String × Nibble)) : KeyMap :=
  entries.reverse.map fun e => (keyName e.1, e.2)

/-- The hexadecimal key behind a name. -/
def KeyMap.key? (map : KeyMap) (name : String) : Option Nibble := map.lookup (keyName name)

/-- The sixteen keys laid over the left side of a keyboard. -/
def KeyMap.standard : KeyMap :=
  [("1", 0x1), ("2", 0x2), ("3", 0x3), ("4", 0xC),
   ("q", 0x4), ("w", 0x5), ("e", 0x6), ("r", 0xD),
   ("a", 0x7), ("s", 0x8), ("d", 0x9), ("f", 0xE),
   ("z", 0xA), ("x", 0x0), ("c", 0xB), ("v", 0xF)].map fun e => (e.1, .ofNat e.2)

/-- Something that happens at the keyboard or to the window. -/
inductive InputEvent where
  | down (key : String)
  | up (key : String)
  | quit
  | other
deriving DecidableEq, Repr

/-- Whether an event ends the session. -/
def InputEvent.isQuit (e : InputEvent) : Bool := e = quit || e = down "ESCAPE"

/-- The keys held so far. -/
structure Keyboard where
  map : KeyMap
  held : Keypad
deriving DecidableEq

namespace Keyboard

/-- A keyboard with no key held.  Without a map, or with an empty one, the
    standard map is used. -/
def start (given : Option KeyMap) : Keyboard where
  map := match given with
    | none | some [] => .standard
    | some map => map
  held := .replicate 16 false

/-- The keyboard with the key behind a name held or not. -/
def setKey (k : Keyboard) (name : String) (isHeld : Bool) : Keyboard :=
  match k.map.key? name with
  | none => k
  | some key => { k with held := k.held.setKey key isHeld }

/-- The keyboard after an event that does not end the session. -/
def react (k : Keyboard) : InputEvent → Keyboard
  | .down name => k.setKey name true
  | .up name => k.setKey name false
  | .quit | .other => k

/-- Take in a batch of events. -/
def poll (k : Keyboard) : List InputEvent → Keyboard × Option Keypad
  | [] => (k, some k.held)
  | e :: es => if e.isQuit then (k, none) else (k.react e).poll es

/-! ## Batches -/

theorem poll_of_no_quit {k : Keyboard} {es : List InputEvent}
    (h : ∀ e ∈ es, e.isQuit = false) :
    k.poll es = (es.foldl react k, some (es.foldl react k).held) := by
  induction es generalizing k with
  | nil => rfl
  | cons e es ih =>
    simp [poll, h e (List.mem_cons_self ..), ih fun e he => h e (List.mem_cons_of_mem _ he)]

theorem poll_append {k : Keyboard} {as bs : List InputEvent}
    (h : ∀ e ∈ as ++ bs, e.isQuit = false) :
    k.poll (as ++ bs) = (k.poll as).1.poll bs := by
  have ha := poll_of_no_quit (k := k) fun e he => h e (List.mem_append_left bs he)
  have hb := poll_of_no_quit (k := as.foldl react k) fun e he => h e (List.mem_append_right as he)
  rw [poll_of_no_quit h, ha, hb, List.foldl_append]

end Keyboard

end Chip8
