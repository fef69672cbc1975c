/-
This file proves that the command tells and leaves behind what the check of its file found. It is
read on a store of files, which the command may find in any state: its file may be missing, and each
of the artifacts may be there, may be missing, may be out of reach, or may be the file itself.

The command does not always tell all that was found. Where the diagnostic of a program that was
rejected cannot be laid out, it breaks down behind the verdict, and on a long line that happens.
-/

import HLang.Console.Command
import HLang.Console.FileStore
import HLang.Proofs.Check.LongLines
import HLang.Proofs.Check.Rendered

namespace HLang

namespace FileStore

variable (store : FileStore)

/-! ### Entries of a store -/

theorem lookup_filter_ne {names other : List String} (apart : other ≠ names)
    (entries : List (List String × FileEntry)) :
    (entries.filter fun entry => entry.1 != names).lookup other = entries.lookup other := by
  induction entries with
  | nil => rfl
  | cons entry more inductionHypothesis =>
    by_cases same : entry.1 = names
    · rw [List.filter_cons_of_neg (by simp [same]), inductionHypothesis, List.lookup_cons,
        beq_false_of_ne (same ▸ apart)]
    · rw [List.filter_cons_of_pos (by simp [same]), List.lookup_cons, List.lookup_cons,
        inductionHypothesis]

/-- Putting an entry under some names changes that entry and no other. -/
theorem entry?_put {names : List String} (inner : names ≠ []) (entry : FileEntry)
    (other : List String) :
    FileStore.entry? (store.put names entry) other =
      if other = names then some entry else store.entry? other := by
  unfold entry? put
  rw [List.lookup_cons]
  by_cases same : other = names
  · rw [if_pos same, if_neg (by rw [same]; simpa using inner), same, beq_self_eq_true]
  · rw [if_neg same, beq_false_of_ne same, lookup_filter_ne same]

/-! ### Names in the working directory -/

/-- The file that the path leads to can be written, or made. -/
def Writable (path : String) : Prop :=
  ∀ text, ∃ next, store.write path text = .ok next

/-- The path is the name of an entry of the working directory, in whatever state the store is. -/
def IsName (path : String) : Prop :=
  ∀ store : FileStore, store.locate path = .ok [path]

theorem isName_of_pathParts {path : String} (short : path.utf8ByteSize ≤ maxPathBytes)
    (relative : path.toList.head? ≠ some '/') (parts : pathParts path = [path])
    (moves : staysPut path = false) (inside : path ≠ "..") : IsName path := by
  intro store
  unfold locate
  rw [if_neg (Nat.not_lt.mpr short), if_neg relative, parts]
  simp [follow, entry?, moves, inside]

theorem isName_cleanSource : IsName ArtifactPaths.here.cleanSource :=
  isName_of_pathParts (by decide) (by decide) (by decide) (by decide) (by decide)

theorem isName_tokenReport : IsName ArtifactPaths.here.tokenReport :=
  isName_of_pathParts (by decide) (by decide) (by decide) (by decide) (by decide)

theorem fromUTF8?_toUTF8 (text : String) : String.fromUTF8? text.toUTF8 = some text := by
  unfold String.fromUTF8?
  exact dif_pos text.isValidUTF8

variable {store} {name : String}

/-- Only a directory under the name stands in the way of a write. -/
theorem IsName.write_eq (isName : IsName name) (text : String) :
    store.entry? [name] = some .directory ∧ store.write name text = .error .isADirectory ∨
      store.entry? [name] ≠ some .directory ∧
        store.write name text = .ok (store.put [name] (.file text.toUTF8)) := by
  unfold write
  rw [isName]
  cases found : store.entry? [name] with
  | none => exact Or.inr ⟨nofun, by simp only [found]⟩
  | some entry =>
    cases entry with
    | file content => exact Or.inr ⟨nofun, by simp only [found]⟩
    | directory => exact Or.inl ⟨rfl, by simp only [found]⟩

theorem IsName.writable_iff (isName : IsName name) :
    store.Writable name ↔ store.entry? [name] ≠ some .directory := by
  constructor
  · intro writable
    obtain ⟨next, written⟩ := writable ""
    rcases isName.write_eq "" with ⟨-, failed⟩ | ⟨free, -⟩
    · rw [failed] at written
      cases written
    · exact free
  · intro free text
    rcases isName.write_eq text with ⟨taken, -⟩ | ⟨-, written⟩
    · exact absurd taken free
    · exact ⟨_, written⟩

theorem IsName.write_of_writable (isName : IsName name) (writable : store.Writable name)
    (text : String) : store.write name text = .ok (store.put [name] (.file text.toUTF8)) := by
  rcases isName.write_eq text with ⟨taken, -⟩ | ⟨-, written⟩
  · exact absurd taken (isName.writable_iff.mp writable)
  · exact written

theorem IsName.write_of_not_writable (isName : IsName name) (refused : ¬ store.Writable name)
    (text : String) : store.write name text = .error .isADirectory := by
  rcases isName.write_eq text with ⟨-, failed⟩ | ⟨free, -⟩
  · exact failed
  · exact absurd (isName.writable_iff.mpr free) refused

/-- What is read under a name is the text of its entry. -/
theorem IsName.readText_of_entry (isName : IsName name) {text : String}
    (entry : store.entry? [name] = some (.file text.toUTF8)) : store.readText name = some text := by
  unfold readText read
  rw [isName]
  simp only [entry, Option.bind_some, fromUTF8?_toUTF8]

theorem entry?_put_self (entry : FileEntry) :
    FileStore.entry? (store.put [name] entry) [name] = some entry := by
  rw [entry?_put store (List.cons_ne_nil _ _), if_pos rfl]

theorem entry?_put_of_ne {other : String} (apart : name ≠ other) (entry : FileEntry) :
    FileStore.entry? (store.put [other] entry) [name] = store.entry? [name] := by
  rw [entry?_put store (List.cons_ne_nil _ _), if_neg (by simpa using apart)]

/-- No name is taken by a directory in a store that holds one file and nothing else. -/
theorem IsName.writable_oneFile (isName : IsName name) (other : String) (content : ByteArray) :
    (empty.put [other] (.file content)).Writable name := by
  rw [isName.writable_iff, entry?_put empty (List.cons_ne_nil _ _)]
  split
  · exact nofun
  · exact nofun

end FileStore

/-! ### Runs on a store -/

open ArtifactPaths (here)

variable (store : FileStore)

section Writing

variable {store} {next : FileStore} {failure : WriteFailure}

theorem FileStore.host_write_of_ok {path text : String}
    (written : store.write path text = .ok next) :
    (FileStore.host.write path text).run store = (.ok (), next) := by
  simp only [FileStore.host, StateT.run_bind, StateT.run_get, pure_bind, written]
  rfl

theorem FileStore.host_write_of_error {path text : String}
    (failed : store.write path text = .error failure) :
    (FileStore.host.write path text).run store = (.error failure, store) := by
  simp only [FileStore.host, StateT.run_bind, StateT.run_get, pure_bind, failed]
  rfl

/-- The token report is written to the store that the cleaned source was written to. -/
theorem Check.writeArtifacts_of_ok {check : Check} {paths : ArtifactPaths}
    (written : store.write paths.cleanSource check.clean.text = .ok next) :
    (check.writeArtifacts FileStore.host paths).run store =
      (FileStore.host.write paths.tokenReport (renderReport check.entries)).run next := by
  unfold Check.writeArtifacts
  rw [StateT.run_bind, FileStore.host_write_of_ok written]
  rfl

/-- The first failure ends the writing. -/
theorem Check.writeArtifacts_of_error {check : Check} {paths : ArtifactPaths}
    (failed : store.write paths.cleanSource check.clean.text = .error failure) :
    (check.writeArtifacts FileStore.host paths).run store = (.error failure, store) := by
  unfold Check.writeArtifacts
  rw [StateT.run_bind, FileStore.host_write_of_error failed]
  rfl

end Writing

/-- The store with the cleaned source of a check. -/
def FileStore.putCleanSource (check : Check) : FileStore :=
  store.put [here.cleanSource] (.file check.clean.text.toUTF8)

/-- The store with the cleaned source and the token report of a check. -/
def FileStore.putArtifacts (check : Check) : FileStore :=
  (store.putCleanSource check).put [here.tokenReport]
    (.file (renderReport check.entries).toUTF8)

theorem FileStore.readText_cleanSource_putCleanSource (check : Check) :
    (store.putCleanSource check).readText here.cleanSource = some check.clean.text :=
  isName_cleanSource.readText_of_entry (entry?_put_self _)

theorem FileStore.readText_cleanSource_putArtifacts (check : Check) :
    (store.putArtifacts check).readText here.cleanSource = some check.clean.text :=
  isName_cleanSource.readText_of_entry ((entry?_put_of_ne (by decide) _).trans (entry?_put_self _))

theorem FileStore.readText_tokenReport_putArtifacts (check : Check) :
    (store.putArtifacts check).readText here.tokenReport = some (renderReport check.entries) :=
  isName_tokenReport.readText_of_entry (entry?_put_self _)

theorem FileStore.entry?_tokenReport_putCleanSource (check : Check) :
    FileStore.entry? (store.putCleanSource check) [here.tokenReport] =
      store.entry? [here.tokenReport] :=
  entry?_put_of_ne (by decide) _

/-- How far the writing of the artifacts comes. -/
theorem Check.writeArtifacts_here (check : Check) :
    let wrote := (check.writeArtifacts FileStore.host here).run store
    (store.Writable here.cleanSource → store.Writable here.tokenReport →
      wrote = (.ok (), store.putArtifacts check)) ∧
    (¬ store.Writable here.cleanSource → wrote = (.error .isADirectory, store)) ∧
    (store.Writable here.cleanSource → ¬ store.Writable here.tokenReport →
      wrote = (.error .isADirectory, store.putCleanSource check)) := by
  have still : (store.putCleanSource check).Writable here.tokenReport ↔
      store.Writable here.tokenReport := by
    rw [FileStore.isName_tokenReport.writable_iff, FileStore.isName_tokenReport.writable_iff,
      FileStore.entry?_tokenReport_putCleanSource]
  refine ⟨fun cleanSource tokenReport => ?_, fun refused => ?_, fun cleanSource refused => ?_⟩
  · exact (Check.writeArtifacts_of_ok
      (FileStore.isName_cleanSource.write_of_writable cleanSource _)).trans
        (FileStore.host_write_of_ok
          (FileStore.isName_tokenReport.write_of_writable (still.mpr tokenReport) _))
  · exact Check.writeArtifacts_of_error
      (FileStore.isName_cleanSource.write_of_not_writable refused _)
  · exact (Check.writeArtifacts_of_ok
      (FileStore.isName_cleanSource.write_of_writable cleanSource _)).trans
        (FileStore.host_write_of_error
          (FileStore.isName_tokenReport.write_of_not_writable (mt still.mp refused) _))

/-- The outcome of a check whose artifacts were written: its verdict, and below it the diagnostic of
a program that was rejected. -/
def Outcome.Tells (outcome : Outcome) (check : Check) : Prop :=
  outcome.exitCode = (if check.verdict.isAccepted then 0 else 1) ∧
    ∃ details,
      check.verdict.diagnosis?.elim (some "") (fun found => found.render? check.clean) =
        some details ∧
      outcome.stdout = check.verdict.message ++ "\n" ++ details

/-- The outcome of a check whose artifacts were written, and of which only the verdict was shown. -/
def Outcome.BreaksDown (outcome : Outcome) (check : Check) : Prop :=
  outcome.exitCode = 101 ∧ outcome.stdout = check.verdict.message ++ "\n"

/-- The outcome of a run that could not do its work. -/
def Outcome.GaveUp (outcome : Outcome) : Prop :=
  outcome.exitCode = 2 ∧ outcome.stdout = ""

/-- If the program was rejected, the column of its fault is within the greatest width. -/
def Check.WithinWidth (check : Check) : Prop :=
  ∀ diagnosis, check.verdict = .rejected diagnosis →
    diagnosis.position.column.toNat ≤ Diagnosis.maxWidth

/-- The outcome of a check whose artifacts were written. The diagnostic is missing if its caret
cannot be led to, and then the run breaks down. -/
structure Outcome.Ends (outcome : Outcome) (check : Check) : Prop where
  tells : check.WithinWidth → outcome.Tells check
  breaksDown : ¬ check.WithinWidth → outcome.BreaksDown check

namespace Command

theorem finish_ends (check : Check) (notes : String) : (finish check notes).Ends check := by
  cases isVerdict : check.verdict with
  | accepted =>
    have details : details? check = some "" := by rw [details?, isVerdict]
    have within : check.WithinWidth := fun diagnosis rejected => by
      rw [isVerdict] at rejected
      cases rejected
    refine ⟨fun _ => ?_, fun beyond => absurd within beyond⟩
    rw [finish, details]
    exact ⟨rfl, "", by rw [isVerdict]; rfl, rfl⟩
  | rejected diagnosis =>
    have details : details? check = diagnosis.render? check.clean := by rw [details?, isVerdict]
    have within : check.WithinWidth ↔ (diagnosis.render? check.clean).isSome = true := by
      rw [Diagnosis.isSome_render?_iff, Check.WithinWidth, isVerdict]
      exact ⟨fun all => all diagnosis rfl, fun bound _ same => (Verdict.rejected.inj same) ▸ bound⟩
    rw [finish, details]
    refine ⟨fun reached => ?_, fun beyond => ?_⟩
    · obtain ⟨rendered, laidOut⟩ := Option.isSome_iff_exists.mp (within.mp reached)
      rw [laidOut]
      exact ⟨rfl, rendered, by rw [isVerdict]; exact laidOut, rfl⟩
    · rw [Option.not_isSome_iff_eq_none.mp (mt within.mpr beyond)]
      exact ⟨rfl, rfl⟩

/-- What the command tells of a source is decided by its check and by how the writing of the
artifacts goes. -/
theorem checkSource_run (source file : String) {result : Except WriteFailure Unit}
    {after : FileStore}
    (wrote : ((Check.ofSource source (some file)).writeArtifacts FileStore.host here).run store =
      (result, after)) :
    let ran : Outcome × FileStore := (checkSource FileStore.host source file).run store
    ran.2 = after ∧ (result = .ok () → ran.1.Ends (Check.ofSource source (some file))) ∧
      ∀ failure, result = .error failure → ran.1.GaveUp := by
  have clock : FileStore.host.clock = pure 0 := rfl
  have named : Check.ofSource source (some file) = Check.ofTokens (CleanSource.ofSource source)
    ((CleanSource.ofSource source).tokens file) file := rfl
  rw [named] at wrote ⊢
  simp only [checkSource, clock, pure_bind, StateT.run_bind, wrote]
  cases result with
  | error failure => exact ⟨rfl, nofun, fun _ _ => ⟨rfl, rfl⟩⟩
  | ok => exact ⟨rfl, fun _ => finish_ends _ _, nofun⟩

/-- What the command tells of a source, and what it leaves behind. -/
theorem checkSource_here (source file : String) :
    let check := Check.ofSource source (some file)
    let ran : Outcome × FileStore := (checkSource FileStore.host source file).run store
    (store.Writable here.cleanSource → store.Writable here.tokenReport →
      ran.1.Ends check ∧ ran.2 = store.putArtifacts check) ∧
    (¬ store.Writable here.cleanSource → ran.1.GaveUp ∧ ran.2 = store) ∧
    (store.Writable here.cleanSource → ¬ store.Writable here.tokenReport →
      ran.1.GaveUp ∧ ran.2 = store.putCleanSource check) := by
  obtain ⟨done, refused, halfDone⟩ :=
    (Check.ofSource source (some file)).writeArtifacts_here store
  refine ⟨fun cleanSource tokenReport => ?_, fun unwritable => ?_, fun cleanSource unwritable => ?_⟩
  · obtain ⟨left, ends, -⟩ := checkSource_run store source file (done cleanSource tokenReport)
    exact ⟨ends rfl, left⟩
  · obtain ⟨left, -, gaveUp⟩ := checkSource_run store source file (refused unwritable)
    exact ⟨gaveUp _ rfl, left⟩
  · obtain ⟨left, -, gaveUp⟩ := checkSource_run store source file (halfDone cleanSource unwritable)
    exact ⟨gaveUp _ rfl, left⟩

/-- Whatever happens, nothing but the artifacts is touched. -/
theorem entry?_checkSource (source file : String) {names : List String}
    (notCleanSource : names ≠ [here.cleanSource]) (notTokenReport : names ≠ [here.tokenReport]) :
    FileStore.entry? ((checkSource FileStore.host source file).run store).2 names =
      store.entry? names := by
  have cleanSourceKept (check : Check) :
      FileStore.entry? (store.putCleanSource check) names = store.entry? names :=
    (store.entry?_put (List.cons_ne_nil _ _) _ names).trans (if_neg notCleanSource)
  obtain ⟨done, refused, halfDone⟩ := checkSource_here store source file
  by_cases cleanSource : store.Writable here.cleanSource
  · by_cases tokenReport : store.Writable here.tokenReport
    · rw [(done cleanSource tokenReport).2]
      exact (FileStore.entry?_put _ (List.cons_ne_nil _ _) _ names).trans
        ((if_neg notTokenReport).trans (cleanSourceKept _))
    · rw [(halfDone cleanSource tokenReport).2]
      exact cleanSourceKept _
  · rw [(refused cleanSource).2]

theorem run_of_readText (program : String) {path source : String}
    (found : store.readText path = some source) :
    (run FileStore.host [program, path]).run store =
      (checkSource FileStore.host source (lastPart path)).run store := by
  unfold FileStore.readText at found
  simp only [run, FileStore.host, StateT.run_bind, StateT.run_get, StateT.run_pure, pure_bind,
    found]

theorem run_of_readText_eq_none (program : String) {path : String}
    (unread : store.readText path = none) :
    (run FileStore.host [program, path]).run store =
      (gaveUp ("ERROR: Source file '" ++ path ++ "' not found.\n"), store) := by
  unfold FileStore.readText at unread
  simp only [run, FileStore.host, StateT.run_bind, StateT.run_get, StateT.run_pure, pure_bind,
    unread]
  rfl

/-- If no source is read, the command gives up at once. -/
theorem run_of_unread {call : List String}
    (unread : ∀ program path, call = [program, path] → store.readText path = none) :
    ∃ complaint, (run FileStore.host call).run store = (gaveUp complaint, store) := by
  match call, unread with
  | [], _ => exact ⟨usage "hlcheck", rfl⟩
  | [program], _ => exact ⟨usage program, rfl⟩
  | [program, path], unread =>
    exact ⟨_, run_of_readText_eq_none store program (unread program path rfl)⟩
  | program :: _ :: _ :: _, _ => exact ⟨usage program, rfl⟩

/-- A run whose source was read. -/
theorem run_of_read (program : String) {path source : String}
    (found : store.readText path = some source) :
    let check := Check.ofSource source (some (lastPart path))
    let ran : Outcome × FileStore := (run FileStore.host [program, path]).run store
    (store.Writable here.cleanSource → store.Writable here.tokenReport →
      ran.1.Ends check ∧ ran.2.readText here.cleanSource = some check.clean.text ∧
        ran.2.readText here.tokenReport = some (renderReport check.entries)) ∧
    (¬ store.Writable here.cleanSource → ran.1.GaveUp ∧ ran.2 = store) ∧
    (store.Writable here.cleanSource → ¬ store.Writable here.tokenReport →
      ran.1.GaveUp ∧ ran.2.readText here.cleanSource = some check.clean.text ∧
        FileStore.entry? ran.2 [here.tokenReport] = store.entry? [here.tokenReport]) := by
  intro check ran
  have run : ran = _ := run_of_readText store program found
  obtain ⟨done, refused, halfDone⟩ := checkSource_here store source (lastPart path)
  rw [← run] at done refused halfDone
  refine ⟨fun cleanSource tokenReport => ?_, refused, fun cleanSource unwritable => ?_⟩
  · obtain ⟨ends, left⟩ := done cleanSource tokenReport
    rw [left]
    exact ⟨ends, store.readText_cleanSource_putArtifacts check,
      store.readText_tokenReport_putArtifacts check⟩
  · obtain ⟨gaveUp, left⟩ := halfDone cleanSource unwritable
    rw [left]
    exact ⟨gaveUp, store.readText_cleanSource_putCleanSource check,
      store.entry?_tokenReport_putCleanSource check⟩

theorem entry?_run (call : List String) {names : List String}
    (notCleanSource : names ≠ [here.cleanSource]) (notTokenReport : names ≠ [here.tokenReport]) :
    FileStore.entry? ((run FileStore.host call).run store).2 names = store.entry? names := by
  by_cases unread : ∀ program path, call = [program, path] → store.readText path = none
  · obtain ⟨complaint, run⟩ := run_of_unread store unread
    rw [run]
  · simp only [Classical.not_forall] at unread
    obtain ⟨program, path, rfl, readable⟩ := unread
    obtain ⟨source, found⟩ := Option.ne_none_iff_exists'.mp readable
    rw [run_of_readText store program found]
    exact entry?_checkSource store source _ notCleanSource notTokenReport

/-- Called with a file that can be read, the command leaves the artifacts of the check of its text
behind, under the last part of the path, and tells what the check found. If the program was rejected
at a column behind the greatest width, it breaks down when it has told the verdict. Otherwise it
gives up: it leaves nothing behind if nothing was read or the cleaned source cannot be written, and
the cleaned source alone if the token report cannot be written. Nothing else is ever touched. -/
theorem run_fileStore (call : List String) :
    let ran : Outcome × FileStore := (run FileStore.host call).run store
    (∀ program path source, call = [program, path] → store.readText path = some source →
      let check := Check.ofSource source (some (lastPart path))
      (store.Writable here.cleanSource → store.Writable here.tokenReport →
        (check.WithinWidth → ran.1.Tells check) ∧ (¬ check.WithinWidth → ran.1.BreaksDown check) ∧
          ran.2.readText here.cleanSource = some check.clean.text ∧
          ran.2.readText here.tokenReport = some (renderReport check.entries)) ∧
      (¬ store.Writable here.cleanSource → ran.1.GaveUp ∧ ran.2 = store) ∧
      (store.Writable here.cleanSource → ¬ store.Writable here.tokenReport →
        ran.1.GaveUp ∧ ran.2.readText here.cleanSource = some check.clean.text ∧
          FileStore.entry? ran.2 [here.tokenReport] = store.entry? [here.tokenReport])) ∧
    ((∀ program path, call = [program, path] → store.readText path = none) →
      ran.1.GaveUp ∧ ran.2 = store) ∧
    ∀ names, names ≠ [here.cleanSource] → names ≠ [here.tokenReport] →
      FileStore.entry? ran.2 names = store.entry? names := by
  refine ⟨?_, fun unread => ?_, fun names notCleanSource notTokenReport => ?_⟩
  · rintro program path source rfl found
    obtain ⟨done, refused, halfDone⟩ := run_of_read store program found
    refine ⟨fun cleanSource tokenReport => ?_, refused, halfDone⟩
    obtain ⟨ends, artifacts⟩ := done cleanSource tokenReport
    exact ⟨ends.tells, ends.breaksDown, artifacts⟩
  · obtain ⟨complaint, run⟩ := run_of_unread store unread
    rw [run]
    exact ⟨⟨rfl, rfl⟩, rfl⟩
  · exact entry?_run store call notCleanSource notTokenReport

/-- A store whose one file stands where the cleaned source is written. -/
def storeOnArtifact : FileStore :=
  FileStore.empty.put [here.cleanSource] (.file "x : integer ;".toUTF8)

theorem run_fileStore_onArtifact :
    storeOnArtifact.readText here.cleanSource = some "x : integer ;" ∧
    storeOnArtifact.Writable here.cleanSource ∧ storeOnArtifact.Writable here.tokenReport ∧
    (Check.ofSource "x : integer ;" (some here.cleanSource)).WithinWidth ∧
    let ran : Outcome × FileStore :=
      (run FileStore.host ["hlcheck", here.cleanSource]).run storeOnArtifact
    ran.1.Tells (Check.ofSource "x : integer ;" (some here.cleanSource)) ∧
      ran.1.exitCode = 0 ∧ ran.1.stdout = "NO ERROR(S) FOUND\n" ∧
      ran.2.readText here.cleanSource = some "x:integer;" := by
  have found : storeOnArtifact.readText here.cleanSource = some "x : integer ;" :=
    FileStore.isName_cleanSource.readText_of_entry (FileStore.entry?_put_self _)
  have cleanSource : storeOnArtifact.Writable here.cleanSource :=
    FileStore.isName_cleanSource.writable_oneFile _ _
  have tokenReport : storeOnArtifact.Writable here.tokenReport :=
    FileStore.isName_tokenReport.writable_oneFile _ _
  have accepted : (Check.ofSource "x : integer ;" (some here.cleanSource)).verdict = .accepted := by
    decide +kernel
  have within : (Check.ofSource "x : integer ;" (some here.cleanSource)).WithinWidth :=
    fun diagnosis rejected => nomatch accepted.symm.trans rejected
  have last : lastPart here.cleanSource = here.cleanSource := by decide
  have whole := (run_fileStore storeOnArtifact ["hlcheck", here.cleanSource]).1 _ _ _ rfl found
  rw [last] at whole
  obtain ⟨tells, -, left, -⟩ := whole.1 cleanSource tokenReport
  obtain ⟨exitCode, details, shown, stdout⟩ := tells within
  rw [accepted] at exitCode shown stdout
  obtain rfl := Option.some.inj shown
  exact ⟨found, cleanSource, tokenReport, within, tells within, exitCode, stdout,
    left.trans (by decide)⟩

/-- A line whose second statement fails at the first column to which no caret can be led. -/
def overlong : String :=
  String.ofList (shownThenAssigned (List.replicate 65524 'a'))

/-- A store whose one file is that line. -/
def storeOfOverlong : FileStore :=
  FileStore.empty.put ["p.hl"] (.file overlong.toUTF8)

theorem verdict_overlong : (Check.ofSource overlong (some "p.hl")).verdict =
    .rejected ⟨.undeclaredIdentifier "y", ⟨1, 65536, "p.hl"⟩⟩ := by
  have verdict := verdict_shownThenAssigned (literalText_replicate 65524) (some "p.hl")
  rw [List.length_replicate] at verdict
  exact verdict

/-- The command is called with a file that can be read, both artifacts are written, and the program
is rejected; but nothing is shown below the verdict, and the code is neither 0 nor 1. -/
theorem run_overlong :
    storeOfOverlong.readText "p.hl" = some overlong ∧
    storeOfOverlong.Writable here.cleanSource ∧ storeOfOverlong.Writable here.tokenReport ∧
    let ran : Outcome × FileStore :=
      (run FileStore.host ["hlcheck", "p.hl"]).run storeOfOverlong
    ran.1.exitCode = 101 ∧ ran.1.stdout = "ERROR\n" ∧
      ¬ ran.1.Tells (Check.ofSource overlong (some "p.hl")) := by
  have isName : FileStore.IsName "p.hl" :=
    FileStore.isName_of_pathParts (by decide) (by decide) (by decide) (by decide) (by decide)
  have found : storeOfOverlong.readText "p.hl" = some overlong :=
    isName.readText_of_entry (FileStore.entry?_put_self _)
  have cleanSource : storeOfOverlong.Writable here.cleanSource :=
    FileStore.isName_cleanSource.writable_oneFile _ _
  have tokenReport : storeOfOverlong.Writable here.tokenReport :=
    FileStore.isName_tokenReport.writable_oneFile _ _
  have last : lastPart "p.hl" = "p.hl" := by decide
  have beyond : ¬ (Check.ofSource overlong (some "p.hl")).WithinWidth := fun within =>
    absurd (within _ verdict_overlong) (by decide)
  have ends := ((run_of_read storeOfOverlong "hlcheck" found).1 cleanSource tokenReport).1
  rw [last] at ends
  obtain ⟨exitCode, stdout⟩ := ends.breaksDown beyond
  rw [verdict_overlong] at stdout
  refine ⟨found, cleanSource, tokenReport, exitCode, stdout, fun tells => ?_⟩
  have told := tells.1
  rw [verdict_overlong, exitCode] at told
  exact absurd told (by decide)

end Command

end HLang
