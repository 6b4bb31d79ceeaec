/-
  A directory of files, with nothing outside it, and the reading of one by its path.

  * a `FileTable` lists files and directories by their path from the directory
    it describes;
  * `FileTable.read` follows a path component by component, and gives the bytes of a
    file or the error that names the path;
  * `readRom` adds the message about the bytes read.
-/
import Chip8.Log
import Chip8.Text.Quoted

namespace Chip8

/-- The reasons for which a path cannot be read. -/
inductive FileCause where
  | noSuchFile
  | notADirectory
  | isADirectory
  | permissionDenied
  | nameTooLong
  /-- the path has a null character, which no path may have -/
  | nullCharacter
deriving DecidableEq, Repr

/-- A path that cannot be read. -/
structure FileError where
  cause : FileCause
  path : String
deriving DecidableEq, Repr

namespace FileError

/-- Whether the operating system refused the path. -/
def isSystem (e : FileError) : Bool := e.cause ≠ .nullCharacter

/-- The text of the error. -/
def message (e : FileError) : String :=
  match e.cause with
  | .noSuchFile => "[Errno 2] No such file or directory: " ++ Text.quoted e.path
  | .permissionDenied => "[Errno 13] Permission denied: " ++ Text.quoted e.path
  | .notADirectory => "[Errno 20] Not a directory: " ++ Text.quoted e.path
  | .isADirectory => "[Errno 21] Is a directory: " ++ Text.quoted e.path
  | .nameTooLong => "[Errno 36] File name too long: " ++ Text.quoted e.path
  | .nullCharacter => "embedded null byte"

end FileError

/-- Paths, by their components, with the bytes of a file or nothing for a
    directory. -/
abbrev FileTable := List (List String × Option (List UInt8))

/-- Where a path has led so far. -/
inductive Place where
  | file (bytes : List UInt8)
  | directory (path : List String)
  /-- a directory above the one that is described -/
  | above
deriving DecidableEq, Repr

/-- The components of a path. -/
def pathComponents (path : String) : List String :=
  (path.toList.splitOn '/').map String.ofList

namespace FileTable

/-- The directory entered from another one by a component. -/
def directoryAt (here : List String) (component : String) : List String :=
  if component = "" ∨ component = "." then here
  else if component = ".." then here.dropLast
  else here ++ [component]

/-- The directories that some components lead through, and where they end. -/
def trail (here : List String) : List String → List (List String) × List String
  | [] => ([], here)
  | c :: cs =>
    let rest := trail (directoryAt here c) cs
    (here :: rest.1, rest.2)

/-- What a name puts into a table: its content at the end of the path, and the
    directories on the way. -/
def ofName (name : String) (content : Option (List UInt8)) : FileTable :=
  let t := trail [] (pathComponents name)
  (t.2, content) :: t.1.map fun path => (path, none)

/-- The table of named contents; of two names for one path the later counts. -/
def ofNames (entries : List (String × Option (List UInt8))) : FileTable :=
  entries.reverse.flatMap fun e => ofName e.1 e.2

/-- What stands at a path of component names: a listed entry, or a directory
    that only the paths of others mention. -/
def find? (t : FileTable) (path : List String) : Option Place :=
  match t.lookup path with
  | some (some bytes) => some (.file bytes)
  | some none => some (.directory path)
  | none => if t.any fun e => path.isPrefixOf e.1 then some (.directory path) else none

/-- Follow one component from a place. -/
def enter (t : FileTable) (here : Place) (component : String) : Except FileCause Place :=
  match here with
  | .file _ => .error .notADirectory
  | .directory path =>
    if component = "" ∨ component = "." then .ok here
    else if component = ".." then .ok (if path = [] then .above else .directory path.dropLast)
    else if 255 < component.utf8ByteSize then .error .nameTooLong
    else
      match t.find? (path ++ [component]) with
      | some place => .ok place
      | none => .error .noSuchFile
  | .above =>
    if component = "" ∨ component = "." ∨ component = ".." then .ok .above
    else if 255 < component.utf8ByteSize then .error .nameTooLong
    else .error .noSuchFile

/-- The place a path leads to.  A path that begins with a slash starts above the
    directory. -/
def resolve (t : FileTable) (path : String) : Except FileCause Place :=
  if path.toList.contains '\x00' then .error .nullCharacter
  else if path = "" then .error .noSuchFile
  else if 4096 ≤ path.utf8ByteSize then .error .nameTooLong
  else
    (pathComponents path).foldlM t.enter
      (if path.startsWith "/" then .above else .directory [])

/-- The bytes of the file at a path. -/
def read (t : FileTable) (path : String) : Except FileError (List UInt8) :=
  match t.resolve path with
  | .error cause => .error ⟨cause, path⟩
  | .ok (.file bytes) => .ok bytes
  | .ok _ => .error ⟨.isADirectory, path⟩

end FileTable

/-- The message about having read the bytes of a program. -/
def romEntry (path : String) (bytes : List UInt8) : LogEntry :=
  ⟨"chip8vm.rom", .info, "Read " ++ Text.int bytes.length ++ " bytes of data from " ++ path⟩

/-- The bytes of a program and the message about having read them. -/
def FileTable.readRom (t : FileTable) (path : String) :
    Except FileError (List UInt8 × LogEntry) :=
  (t.read path).map fun bytes => (bytes, romEntry path bytes)

end Chip8
