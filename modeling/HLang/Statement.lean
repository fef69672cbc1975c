/-
This file defines what checking a program yields: its statements, each with the stretch of
source it covers and the number of tokens it is made of.
-/

import HLang.Position

namespace HLang

/-- The forms of statement. -/
inductive StatementKind where
  | declaration
  | assignment
  | output
  | conditional
deriving DecidableEq, Inhabited

namespace StatementKind

/-- All forms of statement. -/
def all : List StatementKind := [.declaration, .assignment, .output, .conditional]

/-- The name of a form of statement. -/
def name : StatementKind → String
  | .declaration => "Declaration"
  | .assignment => "Assignment"
  | .output => "Output"
  | .conditional => "Conditional"

/-- The form of statement with a given name. -/
def ofName? (text : String) : Option StatementKind :=
  all.find? fun kind => kind.name = text

end StatementKind

/-- A checked statement without the statement it may guard. -/
structure Clause where
  kind : StatementKind
  span : Span
  tokens : Nat
deriving DecidableEq, Inhabited

/-- A checked statement; a conditional guards a clause, its body. -/
structure Statement extends Clause where
  body : Option Clause
deriving DecidableEq, Inhabited

/-- The statement that consists of a clause alone. -/
def Clause.alone (clause : Clause) : Statement := ⟨clause, none⟩

end HLang
