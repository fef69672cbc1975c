/-
This file defines a checking session and the moves from which the productions of the grammar
are built. A session holds the token stream, the declared variables, the productions that
start with each kind of token, and the place of the statement being checked, which is where
every fault is reported. A step is a move that may fail with a diagnosis; a step that fails
keeps what it changed before, so a session can go on after a failure and its state tells how
far the step came.
-/

import HLang.Session.Stream
import HLang.Statement
import HLang.Symbols

namespace HLang

/-! ### Sessions -/

/-- Where a session is in its run. -/
inductive Phase where
  | scanning
  | inConditionalBody
  | failed
  | done
deriving DecidableEq, Inhabited

namespace Phase

/-- All phases. -/
def all : List Phase := [.scanning, .inConditionalBody, .failed, .done]

/-- The name of a phase. -/
def name : Phase → String
  | .scanning => "Scanning"
  | .inConditionalBody => "InConditionalBody"
  | .failed => "Failed"
  | .done => "Done"

/-- The phase with a given name. -/
def ofName? (text : String) : Option Phase :=
  all.find? fun phase => phase.name = text

end Phase

/-- The productions for statements. `statement` stands for whichever the first token calls
for, `identifier` for a declaration or an assignment, and `body` for what a conditional may
guard. -/
inductive Production where
  | statement
  | identifier
  | declaration
  | assignment
  | output
  | conditional
  | body
deriving DecidableEq, Inhabited

/-- A checking session. -/
structure Session where
  stream : TokenStream
  productions : TokenKind → Option Production
  symbols : SymbolTable
  phase : Phase
  statementStart : Position

namespace Session

/-- A session at the start of a list of tokens, without variables and without productions. -/
def start (tokens : List Token) (file : String) : Session :=
  let stream := TokenStream.ofList tokens file
  ⟨stream, fun _ => none, SymbolTable.empty, .scanning, stream.current.span.start⟩

/-- The current token. -/
def current (session : Session) : Token :=
  session.stream.current

/-- Whether there are statements left to check. -/
def hasTokens (session : Session) : Bool :=
  session.current.kind != .endOfInput

/-- Moves past the current token. -/
def advance (session : Session) : Session :=
  { session with stream := session.stream.advance }

/-- Takes the current token as the start of a statement. -/
def beginStatement (session : Session) : Session :=
  { session with statementStart := session.current.span.start }

/-- Has statements that start with the given kind checked by a production. -/
def register (session : Session) (kind : TokenKind) (production : Production) : Session :=
  { session with productions := fun other =>
      if other = kind then some production else session.productions other }

/-- Registers the productions of the language. Declarations and assignments both start with
an identifier. -/
def registerGrammar (session : Session) : Session :=
  ((session.register .identifier .identifier).register .outputWord .output).register
    .ifWord .conditional

/-- The number of tokens between the current one and the end of the stream. -/
def remaining (session : Session) : Nat :=
  session.stream.ahead.length

/-! ### Diagnoses of a session -/

/-- The diagnosis of a fault, at the statement being checked. -/
def diagnose (session : Session) (fault : Fault) : Diagnosis :=
  ⟨fault, session.statementStart⟩

/-- The diagnosis of finding the current token where something else is expected. Unknown text
is unrecognised whatever was expected, and at the end the statement is incomplete. -/
def unexpected (session : Session) (expected : String) : Diagnosis :=
  session.diagnose <|
    match session.current.kind with
    | .unknown => .unrecognisedToken session.current.value
    | .endOfInput => .unexpectedEndOfInput expected
    | _ => .unexpectedTokenDetailed session.current.value ("expected " ++ expected)

/-- The diagnosis of a statement that is not closed: a token of the language in the place of
the semicolon suggests that the semicolon was forgotten. -/
def missingSemicolon (session : Session) : Diagnosis :=
  match session.current.kind with
  | .unknown | .endOfInput => session.unexpected TokenKind.semicolon.describe
  | _ => session.diagnose (.unexpectedToken session.current.value)

/-- The clause made of the tokens from index `first` up to the current one. -/
def clause (session : Session) (kind : StatementKind) (first : Nat) (start : Position) :
    Clause :=
  ⟨kind, ⟨start, session.stream.previous.span.stop⟩, session.stream.index - first⟩

end Session

/-! ### Steps -/

/-- A move of a session that yields a value or fails with a diagnosis. -/
abbrev Step (Value : Type) := ExceptT Diagnosis (StateM Session) Value

namespace Step

/-- Fails for finding the current token where something else is expected. -/
def refuse {Value : Type} (expected : String) : Step Value := do
  let session ← get
  throw (session.unexpected expected)

/-- Fails with a fault of the current statement. -/
def fail {Value : Type} (fault : Fault) : Step Value := do
  let session ← get
  throw (session.diagnose fault)

/-- Passes the current token. -/
def next : Step Token := do
  let session ← get
  set session.advance
  return session.current

/-- Passes the current token if it has the given kind, and fails with the diagnosis of
`otherwise` if not. -/
def expectOr (kind : TokenKind) (otherwise : Session → Diagnosis) : Step Token := do
  let session ← get
  if session.current.kind = kind then next else throw (otherwise session)

/-- Passes a token of the given kind. -/
def expect (kind : TokenKind) : Step Token :=
  expectOr kind fun session => session.unexpected kind.describe

/-- Passes the semicolon that closes a statement. -/
def expectSemicolon : Step Token :=
  expectOr .semicolon Session.missingSemicolon

/-- Takes the current token as the start of a statement. -/
def beginStatement : Step Unit :=
  modify Session.beginStatement

/-- Enters a phase of the run. -/
def enter (phase : Phase) : Step Unit :=
  modify fun session => { session with phase := phase }

/-- The type of a declared variable. -/
def lookUp (name : String) : Step ScalarType := do
  let session ← get
  match session.symbols.find? name with
  | some type => return type
  | none => fail (.undeclaredIdentifier name)

/-- Declares a variable in the current statement. -/
def declare (name : String) (type : ScalarType) : Step Unit := do
  let session ← get
  match session.symbols.declare name type session.statementStart with
  | .ok symbols => set { session with symbols := symbols }
  | .error diagnosis => throw diagnosis

end Step

end HLang
