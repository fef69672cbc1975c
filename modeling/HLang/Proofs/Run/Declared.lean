/-
This file says what a run leaves declared, whether it succeeded or failed: the declarations among
the statements it completed, each with its type, and nothing else. The statement that failed has
declared nothing, whatever it is and wherever it failed. No name stands twice in the table, because
a statement that would declare a name again is not completed.
-/

import HLang.Proofs.Run.Completed

namespace HLang

namespace Grammar

/-! ### The declarations of a program -/

/-- The name and the type that a statement declares, if it is a declaration. -/
def Form.declared? : Form → Option (String × ScalarType)
  | .declaration tree => some (tree.name.token.value, tree.word.type)
  | .simple _ => none
  | .conditional _ => none

/-- The names that the statements of a program declare, with their types, in order. -/
def declarations (program : List Form) : List (String × ScalarType) :=
  program.filterMap Form.declared?

theorem mem_declarations_iff {program : List Form} {name : String} {type : ScalarType} :
    (name, type) ∈ declarations program ↔ Declares program name type := by
  unfold declarations
  rw [List.mem_filterMap]
  constructor
  · rintro ⟨form, member, declared⟩
    cases form with
    | declaration tree =>
      obtain ⟨named, typed⟩ := Prod.mk.inj (Option.some.inj declared)
      exact ⟨tree, member, named, typed⟩
    | simple tree => exact absurd declared (by simp [Form.declared?])
    | conditional tree => exact absurd declared (by simp [Form.declared?])
  · rintro ⟨tree, member, rfl, rfl⟩
    exact ⟨.declaration tree, member, rfl⟩

/-! ### The entries of a table -/

theorem entries_extend (table : SymbolTable) (form : Form) :
    (form.extend table).entries = form.declared?.toList ++ table.entries := by
  cases form <;> rfl

/-- A table that is led past a program gets the declarations of the program, the latest first. -/
theorem entries_foldl_extend (table : SymbolTable) (program : List Form) :
    (program.foldl Form.extend table).entries =
      (declarations program).reverse ++ table.entries := by
  induction program generalizing table with
  | nil => rfl
  | cons form program inductionHypothesis =>
    have shape : declarations (form :: program) =
        form.declared?.toList ++ declarations program := by
      unfold declarations
      cases declared : form.declared? <;> simp [declared]
    rw [List.foldl_cons, inductionHypothesis, entries_extend, shape, List.reverse_append,
      List.append_assoc]
    cases form <;> rfl

/-- The names of a table are apart. -/
def NamesApart (table : SymbolTable) : Prop :=
  (table.entries.map Prod.fst).Nodup

/-- A statement that fits declares no name of the table again. -/
theorem namesApart_extend {table : SymbolTable} {form : Form} (apart : NamesApart table)
    (fits : form.Fits table.scope) : NamesApart (form.extend table) := by
  cases form with
  | declaration tree =>
    have fresh : table.entries.lookup tree.name.token.value = none :=
      (Step.declaration_fits_iff tree).mp fits
    refine List.nodup_cons.mpr ⟨fun member => ?_, apart⟩
    obtain ⟨entry, among, named⟩ := List.mem_map.mp member
    have other := List.lookup_eq_none_iff.mp fresh entry among
    exact absurd named.symm (by simpa using other)
  | simple tree => exact apart
  | conditional tree => exact apart

theorem namesApart_foldl_extend {table : SymbolTable} {program : List Form}
    (apart : NamesApart table) (fits : FitsFrom table program) :
    NamesApart (program.foldl Form.extend table) := by
  induction program generalizing table with
  | nil => exact apart
  | cons form program inductionHypothesis =>
    exact inductionHypothesis (namesApart_extend apart fits.1) fits.2

end Grammar

open Grammar

/-! ### The table of a run -/

/-- After a run, the table holds exactly the declarations among the statements that it completed,
the longest front of the tokens read that is accepted on its own. A run that succeeds has completed
all tokens before the first end of input. -/
theorem symbols_validate (tokens : List Token) (file : String) :
    let read := closedTokens tokens file
    let session := (validate tokens file).session
    ∃ program : List Form, programTokens program <+: read ∧
      IsGreatest {count | count ≤ session.stream.index ∧ AcceptedAlone read file count}
        (programTokens program).length ∧
      (∀ checked, (validate tokens file).outcome = .ok checked →
        programTokens program = beforeEnd tokens ∧ program.map Form.statement = checked) ∧
      (∀ name type,
        session.symbols.find? name = some type ↔ (name, type) ∈ declarations program) ∧
      session.symbols.size = (declarations program).length ∧
      (session.symbols.entries.map Prod.fst).Nodup := by
  intro read session
  obtain ⟨program, completed⟩ := exists_completed tokens file
  have fits : FitsFrom SymbolTable.empty program := completed.completes.fits
  have symbols : session.symbols = program.foldl Form.extend SymbolTable.empty :=
    completed.session_cases.2.trans (Session.symbols_pastAll _ program)
  refine ⟨program, completed.isPrefix, completed.isGreatest, fun checked accepted => ?_,
    fun name type => ?_, ?_, ?_⟩
  · exact ⟨completed.programTokens_of_ok accepted, (completed.session_of_ok accepted).1⟩
  · have scope := foldl_extend_scope empty_scope fits
    rw [mem_declarations_iff, symbols, ← show _ = Declares program from scope]
    rfl
  · rw [symbols, SymbolTable.size, entries_foldl_extend]
    simp [SymbolTable.empty]
  · rw [symbols]
    exact namesApart_foldl_extend List.nodup_nil fits

end HLang
