import RestQuery.Text.Split

/-!
# Files of a working directory

The command reads one file, its configuration, by a path that is relative to
its working directory or absolute.  A working directory is described by the
regular files it holds directly, by name.  Of the rest of the file system
only what every system has is known: the root `/` and the ancestors reached
by `..` are directories; anything else is absent.

A path is looked up by its components between `/`, empty ones and `.`
skipped.  No component at all (`.`, `./`, `/`) names a directory; a relative
path whose one component is the name of a held file names that file, unless
something follows the name (`file/`: a file has nothing below it).  The empty
path names nothing.

Reading a path as text gives its contents, says that nothing is there, or
gives the system's reason why it cannot be read: a directory is not text.

**Results.**
* `read_empty`: the empty path names nothing.
-/

namespace RestQuery
namespace Cli

/-- What a path names. -/
inductive Entry where
  | missing
  | directory
  | file (contents : String)
  deriving Repr, DecidableEq

/-- What reading a path as text gives. -/
inductive FileRead where
  /-- Nothing is at the path. -/
  | missing
  /-- Something is there but cannot be read as text, for the reason given. -/
  | failed (reason : String)
  /-- The text of the file. -/
  | text (contents : String)
  deriving Repr, DecidableEq

/-- A working directory, by the regular files it holds. -/
structure Workdir where
  files : List (String × String) := []
  deriving Repr

/-- The system's reason for not reading a directory as text. -/
def directoryReason : String :=
  "Is a directory (os error 21)"

namespace Workdir

/-- What a path names. -/
def lookup (w : Workdir) (path : String) : Entry :=
  let parts := Text.split path '/'
  let names := parts.filter fun p => p != "" && p != "."
  if path.isEmpty then .missing
  else if names.all (· == "..") then .directory
  else if path.startsWith "/" then .missing
  else
    match names, parts.getLast? with
    | [name], some last =>
      if last == name then
        match w.files.lookup name with
        | some contents => .file contents
        | none => .missing
      else .missing
    | _, _ => .missing

/-- Reads a path as text. -/
def read (w : Workdir) (path : String) : FileRead :=
  match w.lookup path with
  | .missing => .missing
  | .directory => .failed directoryReason
  | .file contents => .text contents

end Workdir

theorem read_empty (w : Workdir) : w.read "" = .missing := by
  simp [Workdir.read, Workdir.lookup]

end Cli
end RestQuery
