/-
This file holds files as a value. A store is a tree of directories seen from one of them, the
working directory: every entry is kept under the names that lead to it from there. Nothing is
known of what lies outside, so a path that leaves the working directory finds nothing.
-/

import HLang.Console.Host
import HLang.Text.Path

namespace HLang

/-- What a path can lead to. -/
inductive FileEntry where
  | file (content : ByteArray)
  | directory

/-- Entries under the names that lead to them, the innermost name first. -/
structure FileStore where
  entries : List (List String × FileEntry)

namespace FileStore

/-- The working directory without entries. -/
def empty : FileStore := ⟨[]⟩

/-- The entry under some names; under none there is the working directory. -/
def entry? (store : FileStore) (names : List String) : Option FileEntry :=
  if names.isEmpty then some .directory else store.entries.lookup names

/-- The store with the entry under some names replaced. -/
def put (store : FileStore) (names : List String) (entry : FileEntry) : FileStore :=
  ⟨(names, entry) :: store.entries.filter fun other => other.1 != names⟩

/-! ### Following a path -/

/-- Follows the parts of a path from the directory under the names `here`. The last part need
not lead to an entry, all others have to lead to directories. -/
def follow (store : FileStore) (here : List String) :
    List String → Except WriteFailure (List String)
  | [] => .ok here
  | part :: more =>
    match store.entry? here with
    | none => .error .notFound
    | some (.file _) => .error .notADirectory
    | some .directory =>
      if staysPut part then store.follow here more
      else if part = ".." then
        match here with
        | [] => .error .notFound
        | _ :: outer => store.follow outer more
      else store.follow (part :: here) more

/-- The greatest length of a path, in bytes. -/
def maxPathBytes : Nat := 4095

/-- The names that a path leads to. A path from the root of the system leaves the store. -/
def locate (store : FileStore) (path : String) : Except WriteFailure (List String) :=
  if maxPathBytes < path.utf8ByteSize then .error .tooLong
  else if path.toList.head? = some '/' then .error .notFound
  else store.follow [] (pathParts path)

/-- The bytes of the file that a path leads to. -/
def read (store : FileStore) (path : String) : Option ByteArray :=
  match store.locate path with
  | .error _ => none
  | .ok names =>
    match store.entry? names with
    | some (.file content) => some content
    | _ => none

/-- Replaces the text of the file that a path leads to, or makes that file. -/
def write (store : FileStore) (path text : String) : Except WriteFailure FileStore :=
  match store.locate path with
  | .error failure => .error failure
  | .ok names =>
    match store.entry? names with
    | some .directory => .error .isADirectory
    | _ => .ok (store.put names (.file text.toUTF8))

/-- The text of the file that a path leads to, if its bytes encode one. -/
def readText (store : FileStore) (path : String) : Option String :=
  (store.read path).bind String.fromUTF8?

/-! ### Filling a store -/

/-- The names in a path, the innermost first. -/
def names (path : String) : List String :=
  ((pathParts path).filter fun part => !staysPut part).reverse

/-- The store with a directory under some names and around it. -/
def addDirectory (store : FileStore) : List String → FileStore
  | [] => store
  | name :: outer =>
    if (store.entry? (name :: outer)).isSome then store
    else (store.addDirectory outer).put (name :: outer) .directory

/-- The store with a file under a path, and the directories around it. -/
def addFile (store : FileStore) (path : String) (content : ByteArray) : FileStore :=
  (store.addDirectory (names path).tail).put (names path) (.file content)

/-- A store with the given directories and files. -/
def ofLists (directories : List String) (files : List (String × ByteArray)) : FileStore :=
  files.foldl (fun store file => store.addFile file.1 file.2)
    (directories.foldl (fun store path => store.addDirectory (names path)) empty)

/-! ### The store as a system -/

/-- A store as the system of a command. Its clock stands still. -/
def host : Host (StateM FileStore) where
  read path := do
    let store ← get
    return store.read path
  write path text := do
    let store ← get
    match store.write path text with
    | .ok next =>
      set next
      return .ok ()
    | .error failure => return .error failure
  clock := return 0

end FileStore

end HLang
