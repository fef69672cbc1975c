/-
This file proves that an offence against scope or type is reported whatever follows it. Behind a
program that is accepted, a statement is begun, and its tokens so far settle that it is wrong. The
run over them fails with the fault of the offence, at the start of the statement or of its body,
and keeps the table of the program. The further tokens may be text that is not of the language, an
end of input, or more offences; none of them is seen.
-/

import HLang.Proofs.Run.Extended
import HLang.Proofs.Session.Offences

namespace HLang

namespace Grammar

/-! ### No offence ends the input -/

theorem Header.noEnd (header : Header) : NoEnd header.tokens :=
  noEnd_append (noEnd_cons header.word (by decide)
    (noEnd_cons header.left (by decide) header.condition.noEnd))
    (noEnd_cons header.right (by decide) noEnd_nil)

variable {scope : Scope} {header tokens : List Token} {fault : Fault}

theorem Offends.noEnd (offends : Offends scope tokens fault) : NoEnd tokens := by
  cases offends with
  | target name sign => exact noEnd_cons name (by decide) (noEnd_cons sign (by decide) noEnd_nil)
  | value target sign sum =>
    exact noEnd_cons target (by decide) (noEnd_cons sign (by decide) sum.noEnd)
  | shown word sign sum =>
    exact noEnd_cons word (by decide) (noEnd_cons sign (by decide) sum.noEnd)
  | mismatch tree => exact (Guarded.assignment tree).noEnd

theorem Condemns.noEnd (condemns : Condemns scope header tokens fault) :
    NoEnd (header ++ tokens) := by
  cases condemns with
  | alone offends => exact offends.noEnd
  | guarded header fits offends => exact noEnd_append header.noEnd offends.noEnd
  | subject word left name =>
    exact noEnd_cons word (by decide) (noEnd_cons left (by decide)
      (noEnd_cons name (by decide) noEnd_nil))
  | operand word left subject relation name =>
    exact noEnd_cons word (by decide) (noEnd_cons left (by decide)
      (noEnd_cons subject (by decide) (noEnd_cons relation (by decide)
        (noEnd_cons name (by decide) noEnd_nil))))
  | duplicate tree => exact (Form.declaration tree).noEnd

theorem Condemns.exists_cons (condemns : Condemns scope header tokens fault) :
    ∃ first more, tokens = first :: more := by
  have offence {front : List Token} (offends : Offends scope front fault) :
      ∃ first more, front = first :: more := by
    cases offends <;> exact ⟨_, _, rfl⟩
  cases condemns with
  | alone offends => exact offence offends
  | guarded header fits offends => exact offence offends
  | subject | operand | duplicate => exact ⟨_, _, rfl⟩

end Grammar

open Grammar Step

/-! ### Offences behind a program -/

/-- A run that reads an offence behind an accepted program fails with its fault, whatever follows.
The place is the first token of the offence, behind the header if it stands in a body, and the table
is that of the program. -/
theorem validate_of_condemns {tokens header offending : List Token} {file : String}
    {checked : List Statement} {fault : Fault} (noEnd : NoEnd tokens)
    (accepted : (validate tokens file).outcome = .ok checked)
    (condemns : Condemns (validate tokens file).session.symbols.scope header offending fault)
    (rest : List Token) :
    let run := validate (tokens ++ (header ++ offending ++ rest)) file
    ∃ first more, offending = first :: more ∧
      run.outcome = .error ⟨fault, first.span.start⟩ ∧
      run.session.symbols = (validate tokens file).session.symbols := by
  obtain ⟨program, rfl, fits, -⟩ := exists_program_of_accepted noEnd accepted
  obtain ⟨first, more, rfl⟩ := condemns.exists_cons
  rw [(validate_programTokens fits file).2] at condemns ⊢
  -- The session behind the program reads the header and the offence.
  let behind := Session.behind (programTokens program ++ (header ++ first :: more ++ rest)) file
    program
  have registered : behind.productions = grammarProductions :=
    Completed.productions_behind _ file program
  have table : behind.symbols = programTable program := symbols_behind _ file program
  have front : header ++ first :: more <+: behind.stream.ahead := by
    rw [show behind.stream.ahead = _ from ahead_behind_append program _ file]
    exact TokenStream.isPrefix_ofList_append condemns.noEnd rest file
  have notEnd : behind.current.kind ≠ .endOfInput :=
    Session.kind_current_ne_end condemns.noEnd
      (List.append_ne_nil_of_right_ne_nil _ (List.cons_ne_nil _ _)) front
  have condemned : Condemns behind.symbols.scope header (first :: more) fault := by
    rw [table]
    exact condemns
  obtain ⟨last, failed⟩ := reports_statement registered condemned front
  have place : (behind.pass header.length).current = first :=
    Session.current_of_isPrefix (append_isPrefix_iff.mp front).2
  rw [place] at failed
  obtain ⟨outcome, session, -⟩ := validate_of_fails (completes_append fits _ file) notEnd failed
  refine ⟨first, more, rfl, outcome, ?_⟩
  rw [session]
  exact (symbols_of_fails_statement registered failed).trans table

/-- The target `y` in the body of a conditional was never declared, and the text behind the sign is
not even of the language. -/
theorem validate_undeclaredTarget :
    let declared := guardedDeclaration.take 4
    let header := (guardedDeclaration.drop 4).take 6
    let name := Token.brief .identifier "y" 3 1
    let rest := [Token.brief .colonEquals ":=" 3 3, .brief .unknown "#" 3 6]
    NoEnd declared ∧ (∃ checked, (validate declared "shell").outcome = .ok checked) ∧
      (validate (declared ++ (header ++ name :: rest)) "shell").outcome =
        .error ⟨.undeclaredIdentifier "y", ⟨3, 1, "shell"⟩⟩ := by
  intro declared header name rest
  have noEnd : NoEnd declared := by unfold NoEnd; decide
  have accepted : (validate declared "shell").outcome =
      .ok [⟨⟨.declaration, ⟨⟨1, 1, "shell"⟩, ⟨1, 11, "shell"⟩⟩, 4⟩, none⟩] := by decide +kernel
  have table : (validate declared "shell").session.symbols = ⟨[("x", .integer)]⟩ := by
    decide +kernel
  let opened : Header :=
    ⟨⟨⟨.ifWord, "If", ⟨⟨2, 1, "shell"⟩, ⟨2, 3, "shell"⟩⟩⟩, by decide⟩,
      ⟨.brief .openParen "(" 2 3, by decide⟩,
      ⟨⟨.brief .identifier "x" 2 4, by decide⟩, ⟨.brief .less "<" 2 5, by decide⟩,
        .number ⟨.brief .integerLiteral "1" 2 6, by decide⟩⟩,
      ⟨.brief .closeParen ")" 2 7, by decide⟩⟩
  have fits : opened.condition.Fits (validate declared "shell").session.symbols.scope := by
    rw [table]
    exact ⟨⟨.integer, rfl⟩, ⟨.integer, rfl⟩⟩
  have unknown : ¬ Knows (validate declared "shell").session.symbols.scope
      ⟨.brief .identifier "y" 3 1, by decide⟩ := by
    rw [table]
    rintro ⟨type, found⟩
    exact nomatch found
  have condemns := Condemns.guarded opened fits
    (.target ⟨name, by decide⟩ ⟨.brief .colonEquals ":=" 3 3, by decide⟩ unknown)
  obtain ⟨first, more, same, outcome, -⟩ :=
    validate_of_condemns noEnd accepted condemns [.brief .unknown "#" 3 6]
  obtain ⟨rfl, -⟩ := List.cons.inj same
  exact ⟨noEnd, ⟨_, accepted⟩, outcome⟩

end HLang
