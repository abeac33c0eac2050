import TrustGate.Failure.Basic
import TrustGate.Net.Address

/-!
# Files

What the operating system says about paths.  It is asked about normal paths, absolute or not, and
it alone decides what they lead to: the root, the working directory, links and permissions are its
own.

    normalPath          the path without empty and `.` parts
    Files.isFile        whether a path names a regular file
    Files.read          the octets of a file
    Files.pathExists    whether a path leads to anything

A path that leads nowhere names no file.  Where the system keeps to itself what a path leads to,
asking for it fails                                              (Files.isFile_eq_error_iff).
-/

namespace TrustGate

/-- The number and the text that the operating system refuses an access with. -/
structure SystemError where
  number : Int
  text : String
  deriving DecidableEq, Repr

namespace SystemError

/-- The failure of an access, with the paths that it concerns. -/
def failure (e : SystemError) (paths : List String) : Failure :=
  Failure.withArgs .os (.int e.number :: .text e.text :: paths.map .text) none

/-- The path leads nowhere: there is no such entry, no directory where one has to be, no open file,
or the links on the way go round. -/
def isAbsence (e : SystemError) : Bool :=
  decide (e.number = 2 ∨ e.number = 20 ∨ e.number = 9 ∨ e.number = 40)

def notFound : SystemError := ⟨2, "No such file or directory"⟩

theorem isOs_failure (e : SystemError) (paths : List String) :
    (e.failure paths).kind.isOs = true := by
  unfold failure
  exact Failure.isOs_withArgs _ _

end SystemError

inductive FileKind where
  | regular
  | other
  deriving DecidableEq, Repr

/-- Why a file is not read: it is not opened, or its content does not come. -/
inductive ReadError where
  | opening (e : SystemError)
  | reading (e : SystemError)
  deriving DecidableEq, Repr

/-- The failure of reading a path; only a file that is not opened is named. -/
def ReadError.failure (path : String) : ReadError → Failure
  | .opening e => e.failure [path]
  | .reading e => e.failure []

theorem ReadError.isOs_failure (path : String) (e : ReadError) :
    (e.failure path).kind.isOs = true := by
  cases e <;> exact SystemError.isOs_failure _ _

/-- The files of a system, which answer for every path that has no null in it. -/
structure Files where
  /-- What a path leads to. -/
  stat : String → Except SystemError FileKind
  /-- What is read from a path. -/
  contents : String → Except ReadError Octets

/-- A null ends a path, so one inside it cannot be handed over. -/
def hasNull (path : String) : Bool := path.toList.contains '\x00'

def pathParts (path : String) : List String :=
  (Net.splitAt '/' path.toList).map String.ofList

/-- The leading slashes of a path: two stay two, more are one. -/
def pathRoot (path : String) : String :=
  match path.toList with
  | '/' :: '/' :: '/' :: _ => "/"
  | '/' :: '/' :: _ => "//"
  | '/' :: _ => "/"
  | _ => ""

/-- A path without empty and `.` parts; the empty path is the working directory. -/
def normalPath (path : String) : String :=
  let parts := (pathParts path).filter fun p => p ≠ "" ∧ p ≠ "."
  let text := pathRoot path ++ String.intercalate "/" parts
  if text = "" then "." else text

/-- What a path with a null in it is refused with. -/
structure NullInPath where

instance : Cause NullInPath where
  kind _ := .value
  message _ := "embedded null byte"

namespace Files

/-- A system without files. -/
def empty : Files where
  stat _ := .error .notFound
  contents _ := .error (.opening .notFound)

/-- Whether a path leads to anything. -/
def pathExists (files : Files) (path : String) : Bool :=
  !hasNull path && (files.stat path).toBool

/-- Whether a normalised path leads to a regular file. -/
def isFile (files : Files) (path : String) : Except Failure Bool :=
  let path := normalPath path
  if hasNull path then .ok false
  else
    match files.stat path with
    | .ok kind => .ok (decide (kind = .regular))
    | .error e => if e.isAbsence then .ok false else .error (e.failure [path])

/-- The octets of the file that a normalised path leads to. -/
def read (files : Files) (path : String) : Except Failure Octets :=
  let path := normalPath path
  if hasNull path then refuse NullInPath.mk
  else (files.contents path).mapError (ReadError.failure path)

end Files

end TrustGate
