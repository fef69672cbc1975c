/-
This file states which programs are well scoped. The judgement is about the statements that
stand before a statement, and not about how a checker remembers them: a declaration needs a name
that no earlier statement declared, every other name needs an earlier declaration, and a variable
declared as an integer is given integers only.

A checker reads a program from left to right and keeps a table instead. By `fitsFrom_empty_iff`
both views agree: the table of a checker holds what the statements before have declared.
-/

import HLang.Proofs.Grammar.Tree

namespace HLang.Grammar

/-! ### Types of operands -/

/-- The declared variables with their types. -/
abbrev Scope := String → ScalarType → Prop

/-- A variable has the type it was declared with, a number has its own. -/
def Operand.HasType (scope : Scope) : Operand → ScalarType → Prop
  | .named name, type => scope name.token.value type
  | .number numeral, type => numeral.type = type
  | .negative _ numeral, type => numeral.type = type

/-- Whether an operand is a number or a declared variable. -/
def Operand.InScope (scope : Scope) (operand : Operand) : Prop :=
  ∃ type, operand.HasType scope type

/-- Whether all variables of an expression are declared. -/
def Sum.InScope (scope : Scope) (sum : Sum) : Prop :=
  ∀ operand ∈ sum.operands, operand.InScope scope

/-- The type of an expression whose variables are declared is double as soon as one operand is,
wherever it stands and whatever signs stand between. -/
def Sum.HasType (scope : Scope) (sum : Sum) (type : ScalarType) : Prop :=
  sum.InScope scope ∧ (type = .double ↔ ∃ operand ∈ sum.operands, operand.HasType scope .double)

/-! ### Statements that fit where they stand -/

/-- The target and the variables of the value are declared, and an integer target is given
integer operands only. -/
structure Assignment.Fits (scope : Scope) (assignment : Assignment) : Prop where
  target : ∃ type, scope assignment.target.token.value type
  value : assignment.value.InScope scope
  integer : scope assignment.target.token.value .integer →
    ∀ operand ∈ assignment.value.operands, operand.HasType scope .integer

def Shown.Fits (scope : Scope) : Shown → Prop
  | .text _ => True
  | .value sum => sum.InScope scope

def Guarded.Fits (scope : Scope) : Guarded → Prop
  | .assignment tree => tree.Fits scope
  | .output tree => tree.shown.Fits scope

def Condition.Fits (scope : Scope) (condition : Condition) : Prop :=
  (∃ type, scope condition.subject.token.value type) ∧ condition.operand.InScope scope

def Conditional.Fits (scope : Scope) (conditional : Conditional) : Prop :=
  conditional.condition.Fits scope ∧ conditional.body.Fits scope

/-- Whether a statement can stand where the variables of the scope are declared. -/
def Form.Fits (scope : Scope) : Form → Prop
  | .declaration tree => ∀ type, ¬ scope tree.name.token.value type
  | .simple tree => tree.Fits scope
  | .conditional tree => tree.Fits scope

/-! ### Well-scoped programs -/

/-- Some statement of the program declares the name with the type. -/
def Declares (program : List Form) : Scope := fun name type =>
  ∃ declaration, Form.declaration declaration ∈ program ∧
    declaration.name.token.value = name ∧ declaration.word.type = type

/-- Every statement fits the declarations that stand before it. -/
def Scoped (program : List Form) : Prop :=
  ∀ before form after, program = before ++ form :: after → form.Fits (Declares before)

/-! ### Reading a program with a table -/

end Grammar

/-- The variables that a table holds. -/
def SymbolTable.scope (table : SymbolTable) : Grammar.Scope := fun name type =>
  table.find? name = some type

namespace Grammar

/-- The table after a statement: a declaration adds its variable. -/
def Form.extend (table : SymbolTable) : Form → SymbolTable
  | .declaration tree => ⟨(tree.name.token.value, tree.word.type) :: table.entries⟩
  | .simple _ => table
  | .conditional _ => table

/-- Every statement fits the table that the statements before it have left. -/
def FitsFrom : SymbolTable → List Form → Prop
  | _, [] => True
  | table, form :: more => form.Fits table.scope ∧ FitsFrom (form.extend table) more

theorem fitsFrom_append_iff {table : SymbolTable} {done rest : List Form} :
    FitsFrom table (done ++ rest) ↔
      FitsFrom table done ∧ FitsFrom (done.foldl Form.extend table) rest := by
  induction done generalizing table with
  | nil => exact (and_iff_right trivial).symm
  | cons form done inductionHypothesis =>
    exact (and_congr_right fun _ => inductionHypothesis).trans and_assoc.symm

theorem declares_append (before more : List Form) (name : String) (type : ScalarType) :
    Declares (before ++ more) name type ↔ Declares before name type ∨ Declares more name type := by
  constructor
  · rintro ⟨declaration, member, named⟩
    rcases List.mem_append.mp member with earlier | later
    · exact Or.inl ⟨declaration, earlier, named⟩
    · exact Or.inr ⟨declaration, later, named⟩
  · rintro (⟨declaration, member, named⟩ | ⟨declaration, member, named⟩)
    · exact ⟨declaration, List.mem_append_left more member, named⟩
    · exact ⟨declaration, List.mem_append_right before member, named⟩

theorem declares_declaration (tree : Declaration) (name : String) (type : ScalarType) :
    Declares [.declaration tree] name type ↔
      tree.name.token.value = name ∧ tree.word.type = type := by
  constructor
  · rintro ⟨declaration, member, named⟩
    obtain rfl : declaration = tree := by simpa using member
    exact named
  · exact fun named => ⟨tree, List.mem_singleton_self _, named⟩

theorem not_declares_of_not_declaration {form : Form}
    (other : ∀ tree, form ≠ .declaration tree) (name : String) (type : ScalarType) :
    ¬ Declares [form] name type := by
  rintro ⟨declaration, member, -⟩
  exact other declaration (List.mem_singleton.mp member).symm

theorem empty_scope : SymbolTable.empty.scope = Declares [] := by
  funext name type
  refine propext ⟨fun found => ?_, ?_⟩
  · exact absurd found (by simp [SymbolTable.scope, SymbolTable.find?, SymbolTable.empty])
  · rintro ⟨declaration, member, -⟩
    exact absurd member List.not_mem_nil

/-- A table keeps up with the statements it is led past, as long as each of them fits. -/
theorem extend_scope {table : SymbolTable} {before : List Form}
    (holds : table.scope = Declares before) {form : Form} (fits : form.Fits table.scope) :
    (form.extend table).scope = Declares (before ++ [form]) := by
  funext name type
  refine propext ?_
  rw [declares_append, ← holds]
  cases form with
  | declaration tree =>
    rw [declares_declaration]
    show SymbolTable.find? ⟨(tree.name.token.value, tree.word.type) :: table.entries⟩ name =
      some type ↔ _
    rw [SymbolTable.find?_cons]
    by_cases same : name = tree.name.token.value
    · -- The name is fresh, so its new entry hides no earlier one.
      rw [same, if_pos rfl]
      constructor
      · intro found
        exact Or.inr ⟨rfl, Option.some.inj found⟩
      · rintro (known | ⟨-, typed⟩)
        · exact absurd known (fits type)
        · rw [typed]
    · rw [if_neg same]
      constructor
      · exact Or.inl
      · rintro (known | ⟨named, -⟩)
        · exact known
        · exact absurd named.symm same
  | simple tree =>
    have none : ¬ Declares [.simple tree] name type :=
      not_declares_of_not_declaration (by simp) name type
    simp only [none, or_false, Form.extend]
  | conditional tree =>
    have none : ¬ Declares [.conditional tree] name type :=
      not_declares_of_not_declaration (by simp) name type
    simp only [none, or_false, Form.extend]

theorem fitsFrom_iff {table : SymbolTable} {before : List Form}
    (holds : table.scope = Declares before) (program : List Form) :
    FitsFrom table program ↔
      ∀ between form after, program = between ++ form :: after →
        form.Fits (Declares (before ++ between)) := by
  induction program generalizing table before with
  | nil =>
    refine ⟨fun _ between form after shape => ?_, fun _ => trivial⟩
    exact absurd shape.symm (List.append_ne_nil_of_right_ne_nil _ (List.cons_ne_nil _ _))
  | cons first more inductionHypothesis =>
    constructor
    · rintro ⟨fits, later⟩ between form after shape
      cases between with
      | nil =>
        obtain ⟨rfl, -⟩ := List.cons.inj shape
        rw [List.append_nil, ← holds]
        exact fits
      | cons next between =>
        obtain ⟨rfl, rest⟩ := List.cons.inj shape
        rw [List.append_cons]
        exact (inductionHypothesis (extend_scope holds fits)).mp later between form after rest
    · intro each
      have fits : first.Fits table.scope := by
        have here := each [] first more rfl
        rwa [List.append_nil, ← holds] at here
      refine ⟨fits, (inductionHypothesis (extend_scope holds fits)).mpr ?_⟩
      intro between form after shape
      have there := each (first :: between) form after (congrArg (first :: ·) shape)
      rwa [List.append_cons] at there

/-- The table that was led past a whole program holds what the program declares. -/
theorem foldl_extend_scope {table : SymbolTable} {before : List Form}
    (holds : table.scope = Declares before) {program : List Form}
    (fits : FitsFrom table program) :
    (program.foldl Form.extend table).scope = Declares (before ++ program) := by
  induction program generalizing table before with
  | nil => rw [List.append_nil, ← holds]; rfl
  | cons form program inductionHypothesis =>
    rw [List.append_cons]
    exact inductionHypothesis (extend_scope holds fits.1) fits.2

/-- The two views of a well-scoped program agree. -/
theorem fitsFrom_empty_iff {program : List Form} :
    FitsFrom SymbolTable.empty program ↔ Scoped program := by
  rw [fitsFrom_iff empty_scope]
  rfl

end HLang.Grammar
