import TrustGate.Files

/-!
# A file system to rehearse with

A tree of files and directories, and the working directory in it.  A path is followed part by part
from the root or from the working directory, so a part that leads through a file or through a
missing directory is an error of its own, as is a name that is too long.
-/

namespace TrustGate.Rehearsal

inductive TreeNode where
  | file (content : Octets)
  | directory
  deriving DecidableEq, Repr

/-- Files and directories by their way from the root.  The directories on the way to an entry and to
the working directory exist too. -/
structure Tree where
  entries : List (List String × TreeNode)
  workingDirectory : List String := []
  deriving DecidableEq, Repr

namespace Tree

def notDirectory : SystemError := ⟨20, "Not a directory"⟩

def isDirectory : SystemError := ⟨21, "Is a directory"⟩

def nameTooLong : SystemError := ⟨36, "File name too long"⟩

/-- What stands at the end of a way from the root. -/
def node? (tree : Tree) (way : List String) : Option TreeNode :=
  match tree.entries.lookup way with
  | some node => some node
  | none =>
    if (tree.workingDirectory :: tree.entries.map (·.1)).any way.isPrefixOf then some .directory
    else none

/-- Goes on from a place by the parts of a path; the root is its own parent. -/
def walk (tree : Tree) : List String → List String → Except SystemError TreeNode
  | here, [] =>
    match tree.node? here with
    | some node => .ok node
    | none => .error .notFound
  | here, part :: rest =>
    match tree.node? here with
    | none => .error .notFound
    | some (.file _) => .error notDirectory
    | some .directory =>
      if part = "" ∨ part = "." then tree.walk here rest
      else if part = ".." then tree.walk here.dropLast rest
      else if 255 < part.utf8ByteSize then .error nameTooLong
      else tree.walk (here ++ [part]) rest

/-- What a path leads to. -/
def find (tree : Tree) (path : String) : Except SystemError TreeNode :=
  if path = "" then .error .notFound
  else if 4096 ≤ path.utf8ByteSize then .error nameTooLong
  else tree.walk (if pathRoot path = "" then tree.workingDirectory else []) (pathParts path)

/-- The tree as a program sees it. -/
def files (tree : Tree) : Files where
  stat path :=
    (tree.find path).map fun
      | .file _ => .regular
      | .directory => .other
  contents path :=
    match tree.find path with
    | .ok (.file content) => .ok content
    | .ok .directory => .error (.opening isDirectory)
    | .error e => .error (.opening e)

theorem stat_of_error {tree : Tree} {path : String} {e : SystemError}
    (h : tree.find path = .error e) : tree.files.stat path = .error e := by
  simp only [files, h]
  rfl

end Tree

end TrustGate.Rehearsal
