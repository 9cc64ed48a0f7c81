import LanWatch.System.IoError
import LanWatch.Text.Pieces
import LanWatch.Text.Utf8

namespace LanWatch

/-!
# Files

The files of a working directory, the directories and devices around it, and how a path leads to
them.

* `Files` — the files by name;
* `Device`, `Directory`, `Entry` — what there is besides those files;
* `Place` — what a path leads to;
* `Files.locate` — follows a path;
* `Files.read?`, `Files.put` — the text of a file.
-/

/-- Files: names and texts. A file of the working directory goes by its name, any other by its whole
    path. -/
abbrev Files := List (String × String)

/-- The devices that paths lead to. -/
inductive Device where
  /-- Takes everything and keeps nothing; what is read from it means nothing. -/
  | null
  /-- Takes nothing. -/
  | full
  /-- The terminal, which cannot be opened without one. -/
  | terminal
  | standardOutput
  | standardError
  deriving DecidableEq

/-- What a path leads to. -/
inductive Place where
  /-- A file that is there. -/
  | file (name : String)
  /-- A name in a directory, with nothing there. -/
  | vacant (name : String)
  | directory
  | device (d : Device)
  /-- The path leads nowhere. -/
  | nowhere (cause : IoError)
  deriving DecidableEq

/-- The directories that paths lead through. -/
inductive Directory where
  /-- The working directory, and the one above it. -/
  | working | temporary
  | root | devices | configuration
  /-- The directory of running processes, that of this process, and that of its open files. -/
  | processes | process | openFiles
  /-- Any other directory in the root; nothing is known to be in it. -/
  | other
  deriving DecidableEq

namespace Directory

/-- The directory above a directory. -/
def parent : Directory → Directory
  | working => temporary
  | process => processes
  | openFiles => process
  | _ => root

/-- Files can be made in the directory. -/
def takesFiles : Directory → Bool
  | processes | process | openFiles => false
  | _ => true

end Directory

/-- What a name leads to within a directory. -/
inductive Entry where
  | file
  | directory (d : Directory)
  | device (d : Device)
  | absent
  deriving DecidableEq

/-- The directories in the root by name. -/
def rootNames : List (String × Directory) :=
  [("dev", .devices), ("etc", .configuration), ("proc", .processes), ("tmp", .temporary)] ++
    ["bin", "boot", "home", "lib", "lib64", "media", "mnt", "opt", "root", "run", "sbin", "srv",
      "sys", "usr", "var"].map fun name => (name, .other)

/-- The entries of the directory of devices by name. -/
def deviceEntries : List (String × Entry) :=
  [("null", .device .null), ("zero", .device .null), ("random", .device .null),
    ("urandom", .device .null), ("stdin", .device .null), ("full", .device .full),
    ("tty", .device .terminal), ("stdout", .device .standardOutput),
    ("stderr", .device .standardError), ("fd", .directory .openFiles),
    ("mqueue", .directory .other), ("pts", .directory .other), ("shm", .directory .other)]

/-- The entries of the directory of a process by name. -/
def processEntries : List (String × Entry) :=
  [("cwd", .directory .working), ("fd", .directory .openFiles), ("root", .directory .root)]

/-- The entries of the directory of open files by name. -/
def openFileEntries : List (String × Entry) :=
  [("0", .device .null), ("1", .device .standardOutput), ("2", .device .standardError)]

/-- Files that every system has for its own configuration. They hold no assignments and so are no
    different from an empty device. -/
def configurationNames : List String :=
  ["group", "hostname", "hosts", "passwd"]

namespace Files

/-- The text of a file. -/
def read? (files : Files) (name : String) : Option String :=
  files.lookup name

/-- Gives a file a new text, or makes it. -/
def put (files : Files) (name text : String) : Files :=
  match files with
  | [] => [(name, text)]
  | (n, t) :: rest => if n = name then (n, text) :: rest else (n, t) :: put rest name text

/-- A file holds the text that it was given last. -/
theorem read?_put_same (files : Files) (name text : String) :
    (files.put name text).read? name = some text := by
  induction files with
  | nil => simp [put, read?]
  | cons f fs ih =>
    obtain ⟨n, t⟩ := f
    by_cases h : n = name
    · simp [put, read?, h]
    · have h' : (name == n) = false := by simpa using fun e => h e.symm
      simpa [put, read?, h, List.lookup_cons, h'] using ih

/-- The bytes that a part of a path may have. -/
def longestName : Nat := 255

/-- The bytes that a path may have. -/
def longestPath : Nat := 4095

/-- What a name leads to within a directory. -/
def entry (files : Files) (d : Directory) (name : String) : Entry :=
  if name = ".." then .directory d.parent
  else match d with
    | .working => if (files.read? name).isSome then .file else .absent
    | .root => ((rootNames.lookup name).map Entry.directory).getD .absent
    | .devices => (deviceEntries.lookup name).getD .absent
    | .configuration => if configurationNames.contains name then .device .null else .absent
    | .processes => if name = "self" then .directory .process else .absent
    | .process => (processEntries.lookup name).getD .absent
    | .openFiles => (openFileEntries.lookup name).getD .absent
    | .temporary | .other => .absent

/-- What the last part of a path leads to, where `path` names the file of the working directory or
    elsewhere that it may lead to. A slash after the last part asks for a directory. -/
def lastPlace (entry : Entry) (path name : String) (d : Directory) (slash : Bool) : Place :=
  match entry with
  | .directory _ => .directory
  | .device device => if slash then .nowhere (.os IoError.isDirectory) else .device device
  | .file => if slash then .nowhere (.os IoError.isDirectory) else .file name
  | .absent =>
    if slash then .nowhere (.os IoError.isDirectory)
    else if !d.takesFiles then .nowhere (.os IoError.noEntry)
    else .vacant (if d = .working then name else path)

/-- Follows the parts of a path from a directory. -/
def follow (files : Files) (path : String) (d : Directory) : List String → Place
  | [] => .directory
  | part :: parts =>
    let last := parts.all (· == "")
    let slash := last && !parts.isEmpty
    if part = "" ∨ part = "." then follow files path d parts
    else if longestName < Text.Utf8.width part && !slash then .nowhere (.os IoError.nameTooLong)
    else if last then lastPlace (files.entry d part) path part d slash
    else match files.entry d part with
      | .directory d => follow files path d parts
      | .absent => .nowhere (.os IoError.noEntry)
      | _ => .nowhere (.os IoError.notDirectory)

/-- Follows a path. -/
def locate (files : Files) (path : String) : Place :=
  let parts := (Text.pieces '/' path.toList).map String.ofList
  if (files.read? path).isSome then .file path
  else if path.toList.contains '\x00' then
    .nowhere (.failure "file name contained an unexpected NUL byte")
  else if path = "" then .nowhere (.os IoError.noEntry)
  else if longestPath < Text.Utf8.width path then .nowhere (.os IoError.nameTooLong)
  else if path.toList.head? = some '/' then follow files path .root parts
  else follow files path .working parts

example : locate [("c.conf", "")] "./c.conf" = .file "c.conf" := by decide
example : locate [("c.conf", "")] "c.conf/x" = .nowhere (.os IoError.notDirectory) := by decide
example : locate [] "../../dev/./full" = .device .full := by decide
example : locate [] "." = .directory := by decide

end Files

end LanWatch
