import TrustGate.Value.Shown

/-!
# Kinds of failure

Every failure has a kind, and kinds form families: a rejected certificate during a
handshake is an engine failure, so an operating-system failure, and a value failure
too.  Callers decide by family what they handle.

    isOs         failures of sockets, files and the TLS engine
    isSsl        failures of the TLS engine
    isTimeout    a time limit ran out
    isValue      an unusable value
    isFactory    the library refuses its configuration or arguments
    isException  everything but a request to stop the program

A kind that has no constructor of its own carries the families it belongs to, in any
combination: an unsupported operation on a stream is a failure of the operating system
and an unusable value at once, and none of the engine.
-/

namespace TrustGate

/-- The families that a kind declares for itself.  The failures of the engine and the time limits
that ran out are failures of the operating system whatever `os` says. -/
structure Families where
  os : Bool := false
  ssl : Bool := false
  timeout : Bool := false
  value : Bool := false
  deriving DecidableEq, Repr, Inhabited

inductive FailureKind where
  | exception
  | interrupt
  | exit
  | generatorExit
  | base
  | os
  | ssl
  | sslVerification
  | sslWantRead
  | sslWantWrite
  | sslEof
  | sslZeroReturn
  | sslSyscall
  | permission
  | fileNotFound
  | isDirectory
  | notDirectory
  | fileExists
  | processLookup
  | childProcess
  | connection
  | connectionRefused
  | connectionReset
  | connectionAborted
  | brokenPipe
  | blocking
  | interrupted
  | timeout
  | addressInfo
  | unresolvedHost
  | connectTimeout
  | value
  | unicode
  | unicodeDecode
  | unicodeEncode
  | lookup
  | key
  | index
  | type
  | attribute
  | runtime
  | recursion
  | notImplemented
  | arithmetic
  | overflow
  | zeroDivision
  | assertion
  | memory
  | factory
  | argument
  | configuration
  | initialization
  | certificateRejected
  | validation
  | decoding
  | verification
  | unsupportedAlgorithm
  | invalidVersion
  | duplicateExtension
  /-- Any other kind, with the families it belongs to. -/
  | named (name : String) (families : Families)
  deriving DecidableEq, Repr, Inhabited

namespace FailureKind

/-- The name of a kind in answers and reports. -/
def name : FailureKind → String
  | .exception => "Exception"
  | .interrupt => "KeyboardInterrupt"
  | .exit => "SystemExit"
  | .generatorExit => "GeneratorExit"
  | .base => "BaseException"
  | .os => "OSError"
  | .ssl => "SSLError"
  | .sslVerification => "SSLCertVerificationError"
  | .sslWantRead => "SSLWantReadError"
  | .sslWantWrite => "SSLWantWriteError"
  | .sslEof => "SSLEOFError"
  | .sslZeroReturn => "SSLZeroReturnError"
  | .sslSyscall => "SSLSyscallError"
  | .permission => "PermissionError"
  | .fileNotFound => "FileNotFoundError"
  | .isDirectory => "IsADirectoryError"
  | .notDirectory => "NotADirectoryError"
  | .fileExists => "FileExistsError"
  | .processLookup => "ProcessLookupError"
  | .childProcess => "ChildProcessError"
  | .connection => "ConnectionError"
  | .connectionRefused => "ConnectionRefusedError"
  | .connectionReset => "ConnectionResetError"
  | .connectionAborted => "ConnectionAbortedError"
  | .brokenPipe => "BrokenPipeError"
  | .blocking => "BlockingIOError"
  | .interrupted => "InterruptedError"
  | .timeout => "TimeoutError"
  | .addressInfo => "gaierror"
  | .unresolvedHost => "UnresolvedHostError"
  | .connectTimeout => "ConnectTimeoutError"
  | .value => "ValueError"
  | .unicode => "UnicodeError"
  | .unicodeDecode => "UnicodeDecodeError"
  | .unicodeEncode => "UnicodeEncodeError"
  | .lookup => "LookupError"
  | .key => "KeyError"
  | .index => "IndexError"
  | .type => "TypeError"
  | .attribute => "AttributeError"
  | .runtime => "RuntimeError"
  | .recursion => "RecursionError"
  | .notImplemented => "NotImplementedError"
  | .arithmetic => "ArithmeticError"
  | .overflow => "OverflowError"
  | .zeroDivision => "ZeroDivisionError"
  | .assertion => "AssertionError"
  | .memory => "MemoryError"
  | .factory => "SocketFactoryError"
  | .argument => "ArgumentError"
  | .configuration => "ConfigurationError"
  | .initialization => "InitializationError"
  | .certificateRejected => "CertificateRejected"
  | .validation => "ValidationError"
  | .decoding => "DecodeError"
  | .verification => "VerificationError"
  | .unsupportedAlgorithm => "UnsupportedAlgorithm"
  | .invalidVersion => "InvalidVersion"
  | .duplicateExtension => "DuplicateExtension"
  | .named name _ => name

/-- The kinds that have a constructor of their own. -/
def all : List FailureKind := [
  .exception, .interrupt, .exit, .generatorExit, .base, .os, .ssl, .sslVerification, .sslWantRead,
  .sslWantWrite, .sslEof, .sslZeroReturn, .sslSyscall, .permission, .fileNotFound, .isDirectory,
  .notDirectory, .fileExists, .processLookup, .childProcess, .connection, .connectionRefused,
  .connectionReset, .connectionAborted, .brokenPipe, .blocking, .interrupted, .timeout,
  .addressInfo, .unresolvedHost, .connectTimeout, .value, .unicode, .unicodeDecode,
  .unicodeEncode, .lookup, .key, .index, .type, .attribute, .runtime, .recursion, .notImplemented,
  .arithmetic, .overflow, .zeroDivision, .assertion, .memory, .factory, .argument, .configuration,
  .initialization, .certificateRejected, .validation, .decoding, .verification,
  .unsupportedAlgorithm, .invalidVersion, .duplicateExtension]

/-- The families of the kinds without a constructor that streams, resolvers and readers raise. -/
def familiesOf : String → Families
  | "UnsupportedOperation" => { os := true, value := true }
  | "herror" => { os := true }
  | "JSONDecodeError" | "TOMLDecodeError" | "UnicodeTranslateError" => { value := true }
  | _ => {}

def ofName (name : String) : FailureKind :=
  (all.find? (·.name == name)).getD (.named name (familiesOf name))

/-- The name that reports give, with the part of the system the kind belongs to in front. -/
def reportName (kind : FailureKind) : String :=
  match kind with
  | .ssl | .sslVerification | .sslWantRead | .sslWantWrite | .sslEof | .sslZeroReturn |
    .sslSyscall => "ssl." ++ kind.name
  | .addressInfo => "socket." ++ kind.name
  | .unresolvedHost | .connectTimeout | .factory | .argument | .configuration |
    .initialization | .certificateRejected => "sslfactory.errors." ++ kind.name
  | .validation | .decoding => "msgspec." ++ kind.name
  | .verification => "cryptography.x509.verification." ++ kind.name
  | .unsupportedAlgorithm => "cryptography.exceptions." ++ kind.name
  | .invalidVersion | .duplicateExtension => "cryptography.x509." ++ kind.name
  | _ => kind.name

/-- The numbers of operating-system failures that are kinds of their own. -/
def numbered : List (Int × FailureKind) := [
  (1, .permission), (2, .fileNotFound), (3, .processLookup), (4, .interrupted),
  (10, .childProcess), (11, .blocking), (13, .permission), (17, .fileExists),
  (20, .notDirectory), (21, .isDirectory), (32, .brokenPipe), (103, .connectionAborted),
  (104, .connectionReset), (108, .brokenPipe), (110, .timeout), (111, .connectionRefused),
  (114, .blocking), (115, .blocking)]

/-- The kind that the number of an operating-system failure stands for, if it is a kind of its
own. -/
def ofNumber? (number : Int) : Option FailureKind := numbered.lookup number

/-- Failures of the TLS engine. -/
def isSsl : FailureKind → Bool
  | .ssl | .sslVerification | .sslWantRead | .sslWantWrite | .sslEof | .sslZeroReturn |
    .sslSyscall => true
  | .named _ families => families.ssl
  | _ => false

/-- A time limit ran out. -/
def isTimeout : FailureKind → Bool
  | .timeout | .connectTimeout => true
  | .named _ families => families.timeout
  | _ => false

/-- Failures of sockets, files and the TLS engine. -/
def isOs : FailureKind → Bool
  | .os | .ssl | .sslVerification | .sslWantRead | .sslWantWrite | .sslEof | .sslZeroReturn |
    .sslSyscall | .permission | .fileNotFound | .isDirectory | .notDirectory | .fileExists |
    .processLookup | .childProcess | .connection | .connectionRefused | .connectionReset |
    .connectionAborted | .brokenPipe | .blocking | .interrupted | .timeout | .addressInfo |
    .unresolvedHost | .connectTimeout => true
  | .named _ families => families.os || families.ssl || families.timeout
  | _ => false

theorem isOs_of_isTimeout {kind : FailureKind} (h : kind.isTimeout = true) : kind.isOs = true := by
  cases kind with
  | named _ families =>
    have htimeout : families.timeout = true := h
    simp [isOs, htimeout]
  | timeout | connectTimeout => rfl
  | _ => cases h

theorem isOs_of_ofNumber? {number : Int} {kind : FailureKind} (h : ofNumber? number = some kind) :
    kind.isOs = true := by
  have hnumbered : ∀ entry ∈ numbered, entry.2.isOs = true := by decide
  obtain ⟨before, after, hmem, -⟩ := List.lookup_eq_some_iff.mp h
  exact hnumbered (number, kind) (by rw [hmem]; simp)

/-- An unusable value; a rejected certificate counts as one. -/
def isValue : FailureKind → Bool
  | .sslVerification | .value | .unicode | .unicodeDecode | .unicodeEncode | .argument => true
  | .named _ families => families.value
  | _ => false

/-- The library refuses its configuration or arguments. -/
def isFactory : FailureKind → Bool
  | .factory | .argument | .configuration | .initialization => true
  | _ => false

theorem not_isFactory_of_isOs {kind : FailureKind} (h : kind.isOs = true) :
    kind.isFactory = false := by
  cases kind with
  | factory | argument | configuration | initialization => cases h
  | _ => rfl

/-- Everything but a request to stop the program. -/
def isException : FailureKind → Bool
  | .interrupt | .exit | .generatorExit | .base => false
  | _ => true

end FailureKind

end TrustGate
