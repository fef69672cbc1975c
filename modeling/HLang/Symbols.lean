/-
This file defines the two scalar types of the language and the table of declared variables.
A table only grows: a name that is declared keeps its type, and a second declaration of it
is refused.
-/

import HLang.Fault

namespace HLang

/-! ### Scalar types -/

/-- The types that a variable can be declared with. -/
inductive ScalarType where
  | integer
  | double
deriving DecidableEq, Inhabited

namespace ScalarType

/-- The name of a type, as it is written in a declaration. -/
def name : ScalarType → String
  | .integer => "integer"
  | .double => "double"

/-- The type that a reserved word names. -/
def ofKind? : TokenKind → Option ScalarType
  | .integerWord => some .integer
  | .doubleWord => some .double
  | _ => none

/-- Whether a variable of the first type can be given a value of the second: an integer fits
everywhere, a double only into a double. -/
def accepts (target value : ScalarType) : Bool :=
  target = .double || value = .integer

/-- The type of a sum or difference: double as soon as one side is. -/
def widen (left right : ScalarType) : ScalarType :=
  if left = .double || right = .double then .double else .integer

end ScalarType

/-! ### Symbol tables -/

/-- The declared variables with their types, the latest first. -/
structure SymbolTable where
  entries : List (String × ScalarType)
deriving DecidableEq, Inhabited

namespace SymbolTable

/-- The table without variables. -/
def empty : SymbolTable := ⟨[]⟩

/-- The type of a declared variable. -/
def find? (table : SymbolTable) (name : String) : Option ScalarType :=
  table.entries.lookup name

/-- The table with one more variable; a name that is already declared is a duplicate,
reported at `position`. -/
def declare (table : SymbolTable) (name : String) (type : ScalarType) (position : Position) :
    Except Diagnosis SymbolTable :=
  if (table.find? name).isSome then .error ⟨.duplicateDeclaration name, position⟩
  else .ok ⟨(name, type) :: table.entries⟩

/-- The number of declared variables. -/
def size (table : SymbolTable) : Nat :=
  table.entries.length

/-- Whether no variable is declared. -/
def isEmpty (table : SymbolTable) : Bool :=
  table.entries.isEmpty

theorem find?_cons (table : SymbolTable) (name : String) (type : ScalarType) (other : String) :
    find? ⟨(name, type) :: table.entries⟩ other =
      if other = name then some type else table.find? other := by
  unfold find?
  rw [List.lookup_cons]
  by_cases same : other = name
  · rw [same, beq_self_eq_true, if_pos rfl]
  · rw [beq_false_of_ne same, if_neg same]

/-- A declaration fails exactly if its name is declared already. -/
theorem declare_eq_error_iff {table : SymbolTable} {name : String} {type : ScalarType}
    {position : Position} {diagnosis : Diagnosis} :
    table.declare name type position = .error diagnosis ↔
      (table.find? name).isSome = true ∧
        diagnosis = ⟨.duplicateDeclaration name, position⟩ := by
  unfold declare
  split
  · rename_i known
    simp [known, eq_comm]
  · rename_i unknown
    simp [unknown]

end SymbolTable

end HLang
