/-
This file says what a command needs of the system it runs on: reading a file, writing a file
and a clock. The command is written against this description, so that it behaves alike on the
files of a machine and on a store of files held as a value.
-/

namespace HLang

/-- Why a file could not be written. -/
inductive WriteFailure where
  | notFound
  | notADirectory
  | isADirectory
  | tooLong
  | other (reason : String)
deriving DecidableEq, Inhabited

namespace WriteFailure

/-- The name of a kind of failure. -/
def name : WriteFailure → String
  | .notFound => "NotFound"
  | .notADirectory => "NotADirectory"
  | .isADirectory => "IsADirectory"
  | .tooLong => "InvalidFilename"
  | .other _ => "Other"

/-- The account of a failure, with the number the system has for it. -/
def message : WriteFailure → String
  | .notFound => "No such file or directory (os error 2)"
  | .notADirectory => "Not a directory (os error 20)"
  | .isADirectory => "Is a directory (os error 21)"
  | .tooLong => "File name too long (os error 36)"
  | .other reason => reason

end WriteFailure

/-- What a command asks of its system. `read` yields the bytes of a readable file, `write`
replaces the text of a file, and `clock` counts nanoseconds. -/
structure Host (m : Type → Type) where
  read : String → m (Option ByteArray)
  write : String → String → m (Except WriteFailure Unit)
  clock : m Nat

end HLang
