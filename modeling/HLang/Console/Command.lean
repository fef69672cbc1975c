/-
This file is the command that checks one source file: it reads the file, writes the
artifacts, prints the verdict with the diagnostic of a failure, and keeps its notes and
complaints apart from them. It ends with code 0 if the program was accepted, 1 if it was
rejected, and 2 if it could not do its work, in which case it prints no verdict. If a program
was rejected and its diagnostic cannot be laid out, the command breaks down with code 101
when it has printed the verdict.
-/

import HLang.Artifacts
import HLang.Diagnostic
import HLang.Text.Duration

namespace HLang

/-- What a run of the command shows. -/
structure Outcome where
  exitCode : UInt32
  stdout : String
  stderr : String
deriving DecidableEq, Inhabited

namespace Command

/-- The call that the command expects, under the name by which it was called. -/
def usage (program : String) : String := "Usage: " ++ program ++ " <source_file.hl>\n"

/-- A run that could not do its work. -/
def gaveUp (complaint : String) : Outcome := ⟨2, "", complaint⟩

/-- A note of the time that one stage took. -/
def note (stage : String) (began ended : Nat) : String :=
  stage ++ duration (ended - began) ++ "\n"

/-- What is printed below a verdict: nothing if the program was accepted, and the diagnostic if it
was rejected, as far as that can be laid out. -/
def details? (check : Check) : Option String :=
  match check.verdict with
  | .accepted => some ""
  | .rejected diagnosis => diagnosis.render? check.clean

/-- How a run ends whose artifacts were written. The verdict is printed before its details are laid
out. -/
def finish (check : Check) (notes : String) : Outcome :=
  let verdict := check.verdict.message ++ "\n"
  match details? check with
  | some details => ⟨if check.verdict.isAccepted then 0 else 1, verdict ++ details, notes⟩
  | none => ⟨101, verdict, notes ++ "Formatting argument out of range\n"⟩

/-- Checks a source under the name of its file. -/
def checkSource {m : Type → Type} [Monad m] (host : Host m) (source file : String) :
    m Outcome := do
  let began ← host.clock
  let clean := CleanSource.ofSource source
  let cleaned ← host.clock
  let tokens := clean.tokens file
  let scanned ← host.clock
  let check := Check.ofTokens clean tokens file
  let checked ← host.clock
  let notes := note "Normalized in " began cleaned ++ note "Tokenized in " cleaned scanned ++
    note "Validated in " scanned checked
  match ← check.writeArtifacts host ArtifactPaths.here with
  | .error failure =>
    return gaveUp (notes ++ "ERROR: Failed to write artifacts: " ++ failure.message ++ "\n")
  | .ok () => do
    let ended ← host.clock
    return finish check (notes ++ note "Total time: " began ended)

/-- Runs the command as it is called: with the name of the program and its arguments. -/
def run {m : Type → Type} [Monad m] (host : Host m) : List String → m Outcome
  | [_, path] => do
    match (← host.read path).bind String.fromUTF8? with
    | none => return gaveUp ("ERROR: Source file '" ++ path ++ "' not found.\n")
    | some source => checkSource host source (lastPart path)
  | call => return gaveUp (usage (call.head?.getD "hlcheck"))

end Command

end HLang
