/-
This file runs the command on the files of the machine.
-/

import HLang.Console.Command

namespace HLang

/-- The failure that an error of the system amounts to. -/
def writeFailure : IO.Error → WriteFailure
  | .noFileOrDirectory .. => .notFound
  | .inappropriateType _ 20 _ => .notADirectory
  | .inappropriateType _ 21 _ => .isADirectory
  | .inappropriateType .. => .notADirectory
  | .invalidArgument _ 36 _ => .tooLong
  | error => .other error.toString

/-- The machine as the system of the command. -/
def machine : Host IO where
  read path := do
    try
      let content ← IO.FS.readBinFile path
      return some content
    catch _ => return none
  write path text := do
    try
      IO.FS.writeFile path text
      return .ok ()
    catch error => return .error (writeFailure error)
  clock := IO.monoNanosNow

end HLang

/-- Runs the command with the arguments of the call. They come without the name of the program,
which is called by the name that it is installed under. -/
def main (args : List String) : IO UInt32 := do
  let outcome ← HLang.Command.run HLang.machine ("hlcheck" :: args)
  (← IO.getStderr).putStr outcome.stderr
  (← IO.getStdout).putStr outcome.stdout
  return outcome.exitCode
