/-!
# Faults of the system

A fault has a kind, by which the program decides, and a text, which it shows.
-/

namespace TraceView

inductive FaultKind where
  | notFound
  | permissionDenied
  | interrupted
  | brokenPipe
  | unexpectedEnd
  | invalidData
  | other
  deriving DecidableEq, Repr

structure Fault where
  kind : FaultKind
  message : String
  deriving DecidableEq, Repr

/-- The text of a fault of which only the kind is known. -/
def FaultKind.description : FaultKind → String
  | .notFound => "entity not found"
  | .permissionDenied => "permission denied"
  | .interrupted => "operation interrupted"
  | .brokenPipe => "broken pipe"
  | .unexpectedEnd => "unexpected end of file"
  | .invalidData => "invalid data"
  | .other => "other error"

namespace Fault

def ofKind (kind : FaultKind) : Fault := ⟨kind, kind.description⟩

def noSuchFile : Fault := ⟨.notFound, "No such file or directory (os error 2)"⟩

def badDescriptor : Fault := ⟨.other, "Bad file descriptor (os error 9)"⟩

def denied : Fault := ⟨.permissionDenied, "Permission denied (os error 13)"⟩

def notADirectory : Fault := ⟨.other, "Not a directory (os error 20)"⟩

def isADirectory : Fault := ⟨.other, "Is a directory (os error 21)"⟩

def nameTooLong : Fault := ⟨.other, "File name too long (os error 36)"⟩

def notUtf8 : Fault := ⟨.invalidData, "stream did not contain valid UTF-8"⟩

end Fault

end TraceView
