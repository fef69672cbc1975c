/-
This file reads and joins file paths as texts. The parts of a path stand between slashes;
empty parts and single dots lead nowhere, and two dots lead back. Joining collapses nothing
and only supplies a slash where one is missing.
-/

namespace HLang

/-- The parts of a path between its slashes. -/
def pathParts (path : String) : List String :=
  (path.toList.splitOn '/').map String.ofList

/-- Whether a part of a path leads to where it stands. -/
def staysPut (part : String) : Bool :=
  part = "" || part = "."

/-- The file a path speaks of: its last part that leads anywhere. A path that has none, or
leads back at its end, is given as it is. -/
def lastPart (path : String) : String :=
  match ((pathParts path).filter fun part => !staysPut part).getLast? with
  | none => path
  | some part => if part = ".." then path else part

/-- The path of a name in a directory. -/
def joinPath (directory name : String) : String :=
  if directory = "" then name
  else if directory.toList.getLast? = some '/' then directory ++ name
  else directory ++ "/" ++ name

end HLang
