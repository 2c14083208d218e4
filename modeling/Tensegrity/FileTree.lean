/-!
# File trees

A model can read its description from a file named by a path. The files it can see are a value,
a `FileTree`: every file and directory listed by its path from the root, and the working
directory that relative paths start from. Nothing here touches a real disk, so what a read
gives is a function of the tree and the path alone.

`FileTree.read` follows the system's rules for opening and reading a path:

* an empty path names nothing, and a path holding a zero byte, or of 4096 bytes or more, is
  refused before anything is looked up;
* the path is walked one component at a time: `.` stays, `..` climbs (never above the root), and
  any other name of more than 255 bytes is too long, or must be listed in the current directory;
* every component but the last must turn out to be a directory, and so must the last when the
  path ends with a slash;
* a directory can be opened but has no text to read.
-/

namespace Tensegrity

/-- Why a file could not be read. -/
inductive FileProblem where
  /-- No file or directory has that name. -/
  | notFound
  /-- The path names a directory, which has no text. -/
  | isDirectory
  /-- The path goes on past a file, or asks for a file to be a directory. -/
  | notDirectory
  /-- The path, or a name in it, is longer than the system allows. -/
  | nameTooLong
  /-- The path holds a zero byte, which no file name can. -/
  | zeroByte
deriving Inhabited, DecidableEq

/-- The text the system gives for a file problem. -/
def FileProblem.text : FileProblem → String
  | .notFound => "No such file or directory (os error 2)"
  | .isDirectory => "Is a directory (os error 21)"
  | .notDirectory => "Not a directory (os error 20)"
  | .nameTooLong => "File name too long (os error 36)"
  | .zeroByte => "file name contained an unexpected NUL byte"

/-- What a path names: a file with its text, or a directory. -/
inductive FileKind where
  | file (text : String)
  | directory
deriving Inhabited

/-- **The files a program can see.** -/
structure FileTree where
  /-- Every file and directory but the root, by its path from the root; the directories on the
  way to an entry are listed too. -/
  entries : List (List String × FileKind) := []
  /-- The working directory, as a path from the root. -/
  home : List String := []
deriving Inhabited

namespace FileTree

/-- What a path from the root names, if anything; the root is a directory. -/
def kind? (t : FileTree) : List String → Option FileKind
  | [] => some .directory
  | p => t.entries.lookup p

/-- Whether a path from the root names a directory. -/
def isDirectoryAt (t : FileTree) (p : List String) : Bool :=
  match t.kind? p with
  | some .directory => true
  | _ => false

/-- One component of a walk from the directory `here`. -/
def enter (t : FileTree) (here : List String) (name : String) : Except FileProblem (List String) :=
  if name = "." then .ok here
  else if name = ".." then .ok here.dropLast
  else if 255 < name.utf8ByteSize then .error .nameTooLong
  else if (t.kind? (here ++ [name])).isSome then .ok (here ++ [name])
  else .error .notFound

/-- Walks the components of a path from the directory `here`; every component but the last
must lead to a directory. -/
def walk (t : FileTree) (here : List String) : List String → Except FileProblem (List String)
  | [] => .ok here
  | name :: rest => do
    let next ← t.enter here name
    if rest.isEmpty || t.isDirectoryAt next then t.walk next rest else .error .notDirectory

/-- The components of a path: what lies between its slashes, empty ones left out. -/
def components (path : String) : List String :=
  (path.splitOn "/").filter (· ≠ "")

/-- **Reads the file a path names**, relative to the working directory unless it starts with a
slash. -/
def read (t : FileTree) (path : String) : Except FileProblem String :=
  if path.isEmpty then .error .notFound
  else if path.any (· = '\x00') then .error .zeroByte
  else if 4096 ≤ path.utf8ByteSize then .error .nameTooLong
  else do
    let start := if path.startsWith "/" then [] else t.home
    let target ← t.walk start (components path)
    match t.kind? target with
    | some (.file text) => if path.endsWith "/" then .error .notDirectory else .ok text
    | _ => .error .isDirectory

/-- A walk that meets no component is where it started. -/
@[simp]
theorem walk_nil (t : FileTree) (here : List String) : t.walk here [] = .ok here := by
  simp [walk]

end FileTree

end Tensegrity
