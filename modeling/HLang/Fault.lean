/-
This file names what can be wrong with a program and words it. A fault is the cause alone; a
diagnosis adds the position at which it is reported. Both the one-line account of a diagnosis
and the tip shown beside its name are worded here and nowhere else. Accounts quote the text
of the program, so that two different faults are not worded alike; tips show it raw.
-/

import HLang.Position
import HLang.Text.Decimal
import HLang.Text.Quoted
import HLang.Token.Kind

namespace HLang

/-! ### Faults -/

/-- What is wrong with a program. -/
inductive Fault where
  /-- Text that is no lexeme of the language. -/
  | unrecognisedToken (token : String)
  /-- A token where a statement should have been closed. -/
  | unexpectedToken (token : String)
  /-- A token that does not fit, with what was expected or what is forbidden. -/
  | unexpectedTokenDetailed (token message : String)
  /-- The program ends within a statement. -/
  | unexpectedEndOfInput (expected : String)
  /-- A variable is used and not declared. -/
  | undeclaredIdentifier (identifier : String)
  /-- A variable is declared twice. -/
  | duplicateDeclaration (identifier : String)
  /-- A value does not fit the type of the variable it is assigned to. -/
  | typeMismatch (expected received : String)
deriving DecidableEq, Inhabited

/-- The stage of checking to which a fault belongs. -/
inductive FaultCategory where
  | lexical
  | grammatical
  | semantic
deriving DecidableEq, Inhabited

/-- The name of a category. -/
def FaultCategory.name : FaultCategory → String
  | .lexical => "Lexical"
  | .grammatical => "Syntax"
  | .semantic => "Semantic"

namespace Fault

/-- The name of a kind of fault. -/
def name : Fault → String
  | .unrecognisedToken _ => "UnrecognisedToken"
  | .unexpectedToken _ => "UnexpectedToken"
  | .unexpectedTokenDetailed _ _ => "UnexpectedTokenDetailed"
  | .unexpectedEndOfInput _ => "UnexpectedEndOfInput"
  | .undeclaredIdentifier _ => "UndeclaredIdentifier"
  | .duplicateDeclaration _ => "DuplicateDeclaration"
  | .typeMismatch _ _ => "TypeMismatch"

/-- The category of a fault. -/
def category : Fault → FaultCategory
  | .unrecognisedToken _ => .lexical
  | .unexpectedToken _ | .unexpectedTokenDetailed _ _ | .unexpectedEndOfInput _ => .grammatical
  | .undeclaredIdentifier _ | .duplicateDeclaration _ | .typeMismatch _ _ => .semantic

/-- The hint that is shown beside the name of a fault. Text that is no lexeme gets none. -/
def tip? : Fault → Option String
  | .unrecognisedToken _ => none
  | .unexpectedToken token =>
    some ("Unexpected token: `" ++ token ++ "`, did you miss a semicolon?")
  | .unexpectedTokenDetailed token message =>
    some ("Unexpected token: `" ++ token ++ "`, " ++ message)
  | .unexpectedEndOfInput expected => some ("Source ended early, expected " ++ expected)
  | .undeclaredIdentifier identifier => some ("Identifier `" ++ identifier ++ "` not declared")
  | .duplicateDeclaration identifier =>
    some ("Identifier `" ++ identifier ++ "` already declared")
  | .typeMismatch expected received =>
    some ("Expected type `" ++ expected ++ "`, received `" ++ received ++ "`")

/-- The account of a fault in words. -/
def message : Fault → String
  | .unrecognisedToken token => "unrecognised token: " ++ quoted token
  | .unexpectedToken token => "unexpected token: " ++ quoted token
  | .unexpectedTokenDetailed token message =>
    "unexpected token (" ++ message ++ "): " ++ quoted token
  | .unexpectedEndOfInput expected => "unexpected end of input, expected " ++ expected
  | .undeclaredIdentifier identifier => "identifier " ++ quoted identifier ++ " not declared"
  | .duplicateDeclaration identifier =>
    "identifier " ++ quoted identifier ++ " already declared"
  | .typeMismatch expected received =>
    "types do not match: expected " ++ expected ++ ", received " ++ received

end Fault

/-! ### Diagnoses -/

/-- A fault and the position at which it is reported. -/
structure Diagnosis where
  fault : Fault
  position : Position
deriving DecidableEq, Inhabited

/-- The account of a diagnosis in one line: the kind of fault, its line and the fault. -/
def Diagnosis.text (diagnosis : Diagnosis) : String :=
  diagnosis.fault.name ++ " at line " ++ decimal diagnosis.position.line.toNat ++ ": " ++
    diagnosis.fault.message

end HLang
