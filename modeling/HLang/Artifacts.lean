/-
This file writes what a check leaves behind for later use: the cleaned source as it is, and
the token report. They are written in this order, and the first failure ends the writing.
-/

import HLang.Check
import HLang.Console.Host
import HLang.Text.Path

namespace HLang

/-- Where the artifacts of a check are written. -/
structure ArtifactPaths where
  cleanSource : String
  tokenReport : String
deriving DecidableEq, Inhabited

namespace ArtifactPaths

/-- The artifacts by their names, in the working directory. -/
def here : ArtifactPaths := ⟨"NOSPACES.TXT", "RES_SYM.TXT"⟩

/-- The artifacts in a given directory. -/
def inDirectory (directory : String) : ArtifactPaths :=
  ⟨joinPath directory here.cleanSource, joinPath directory here.tokenReport⟩

/-- The artifacts in a directory, or in the working directory if none is given. -/
def ofDirectory? (directory : Option String) : ArtifactPaths :=
  match directory with
  | none => here
  | some directory => inDirectory directory

end ArtifactPaths

/-- Writes the artifacts of a check. -/
def Check.writeArtifacts {m : Type → Type} [Monad m] (check : Check) (host : Host m)
    (paths : ArtifactPaths) : m (Except WriteFailure Unit) := do
  match ← host.write paths.cleanSource check.clean.text with
  | .error failure => return .error failure
  | .ok () => host.write paths.tokenReport (renderReport check.entries)

end HLang
