/-! # Faults of the operating system

Why a file or a connection could not be used, and the system's words for it.
-/

set_option autoImplicit false

namespace Outbox

/-- A refusal of the operating system, or of a stream that is not text. -/
inductive SystemFault where
  | notFound
  | isDirectory
  | notDirectory
  | nameTooLong
  | nulInName
  | refused
  | unreachable
  | brokenPipe
  | notText
  | other (text : String)
  deriving DecidableEq, Repr

def SystemFault.message : SystemFault → String
  | notFound => "No such file or directory (os error 2)"
  | isDirectory => "Is a directory (os error 21)"
  | notDirectory => "Not a directory (os error 20)"
  | nameTooLong => "File name too long (os error 36)"
  | nulInName => "file name contained an unexpected NUL byte"
  | refused => "Connection refused (os error 111)"
  | unreachable => "Network is unreachable (os error 101)"
  | brokenPipe => "Broken pipe (os error 32)"
  | notText => "stream did not contain valid UTF-8"
  | other text => text

end Outbox
