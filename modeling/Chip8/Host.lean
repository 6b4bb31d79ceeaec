/-
  The host of a session: the files it reads, the output its messages go to, the
  screen and the room for frames.

  A session runs on any host.  What it relies on is said apart:

  * `Host.Reads`: a name is read and the message about it is written;
  * `Host.Accepts`: the operating system decides about a name, and the messages that
    carry it are written;
  * `Host.Shows`: up to some length of a side, windows are opened and their frames
    painted;
  * `Host.ofFiles` is the host of a table of files, an output that takes every
    message, the standard screen and room for `2 ^ 38` bytes.
-/
import Chip8.Files
import Chip8.Memory
import Chip8.Window

namespace Chip8

/-- The causes for which no bytes are read. -/
inductive ReadFault where
  /-- the operating system refuses the name, in its own words -/
  | refused (text : String)
  /-- a name that no file can have -/
  | invalid (text : String)
  /-- more bytes than there is room for -/
  | noRoom
deriving DecidableEq, Repr

/-- The text of a cause. -/
def ReadFault.message : ReadFault → String
  | refused text => text
  | invalid text => text
  | noRoom => ""

/-- What a session runs on. -/
structure Host where
  /-- the bytes of the file of a name -/
  read (name : String) : Except ReadFault (List UInt8)
  /-- writes a message, or tells why the output cannot take it -/
  write (e : LogEntry) : Except String Unit
  screen : Screen
  /-- the number of bytes for which a frame finds room -/
  room : Nat

/-! ## Messages about a program -/

/-- The message about a program that the operating system refuses to read. -/
def unopenedEntry (name text : String) : LogEntry :=
  ⟨"chip8vm", .error, "Couldn't open " ++ name ++ ": " ++ text⟩

/-- The message about a program that is not loaded. -/
def unloadedEntry (name : String) (f : Fault) : LogEntry :=
  ⟨"chip8vm", .error, "Couldn't load " ++ name ++ ": " ++ f.message⟩

namespace Host

/-- A host on which the file of a name has some bytes and the message about them is
    written. -/
structure Reads (h : Host) (name : String) (bytes : List UInt8) : Prop where
  read : h.read name = .ok bytes
  write : h.write (romEntry name bytes) = .ok ()

/-- A host on which the operating system decides whether a name is read, and the messages
    that carry the name are written. -/
structure Accepts (h : Host) (name : String) : Prop where
  reads : ∀ bytes, h.read name = .ok bytes → h.Reads name bytes
  refuses : ∀ f, h.read name = .error f →
    ∃ text, f = .refused text ∧ h.write (unopenedEntry name text) = .ok ()
  unloaded : ∀ bytes, h.read name = .ok bytes → maxRomSize < bytes.length →
    h.write (unloadedEntry name (.romTooLarge bytes.length maxRomSize)) = .ok ()

/-- A host that opens every window with sides up to a length, and has the room for
    its frames. -/
structure Shows (h : Host) (side : Nat) : Prop where
  screen : h.screen.Shows side
  room : ∀ scale : Int, 1 ≤ scale → 64 * scale ≤ side → Frame.HasRoom h.room scale

end Host

/-! ## Hosts of files -/

/-- The cause behind a path that cannot be read. -/
def FileError.toFault (e : FileError) : ReadFault :=
  if e.isSystem then .refused e.message else .invalid e.message

namespace Host

/-- The room on the host of a table of files. -/
def standardRoom : Nat := 274877906944

/-- The host of a table of files. -/
def ofFiles (files : FileTable) : Host where
  read name := (files.read name).mapError FileError.toFault
  write _ := .ok ()
  screen := .standard
  room := standardRoom

theorem ofFiles_read_eq_error {files : FileTable} {name : String} {f : ReadFault} :
    (ofFiles files).read name = .error f ↔ ∃ e, files.read name = .error e ∧ e.toFault = f := by
  show (files.read name).mapError FileError.toFault = .error f ↔ _
  cases files.read name with
  | error e =>
    constructor
    · exact fun h => ⟨e, rfl, Except.error.inj h⟩
    · rintro ⟨_, h, rfl⟩
      cases h
      rfl
  | ok bytes => exact ⟨nofun, nofun⟩

theorem ofFiles_reads {files : FileTable} {name : String} {bytes : List UInt8}
    (h : files.read name = .ok bytes) : (ofFiles files).Reads name bytes where
  read := congrArg (Except.mapError FileError.toFault) h
  write := rfl

/-- There is room for the frames of every scale up to 6688. -/
theorem hasRoom_standardRoom {scale : Int} (h : scale ≤ 6688) :
    Frame.HasRoom standardRoom scale :=
  .of_le (by decide) h

/-- What a host shows depends on its screen and its room alone. -/
theorem shows_standard {h : Host} (hscreen : h.screen = .standard)
    (hroom : h.room = standardRoom) : h.Shows 16384 where
  screen := hscreen ▸ Screen.standard_shows
  room _ _ hscale := hroom ▸ hasRoom_standardRoom (by omega)

theorem ofFiles_shows {files : FileTable} : (ofFiles files).Shows 16384 := shows_standard rfl rfl

end Host

end Chip8
