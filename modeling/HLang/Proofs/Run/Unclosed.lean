/-
This file says when a run that fails asks for a semicolon. It does so exactly if the token at which
it has ended is one of the language and the tokens before it, with a semicolon behind them, are
those of a program, if only their kinds are looked at.

So an accepted program is not accepted without one of its semicolons. The run fails at the token
behind it, and it is reported where the statement begins that was closed by the semicolon, or its
body if it is a conditional.
-/

import HLang.Proofs.Run.Covered
import HLang.Proofs.Run.Described
import HLang.Proofs.Run.Extended
import HLang.Proofs.Run.Truncated
import HLang.Proofs.Run.Viable
import HLang.Proofs.Session.Unclosed

namespace HLang

open Grammar Step

/-! ### Tokens that a semicolon completes -/

namespace Grammar

/-- With a semicolon behind them, tokens of these kinds are those of a program. -/
def LacksSemicolon (tokens : List Token) : Prop :=
  ∃ program, kinds (programTokens program) = kinds tokens ++ [.semicolon]

variable {tokens : List Token}

theorem lacksSemicolon_iff : LacksSemicolon tokens ↔
    Juncture.start.Accepts .start (tokens ++ [(default : Leaf [.semicolon]).token]) := by
  have same : kinds (tokens ++ [(default : Leaf [.semicolon]).token]) =
      kinds tokens ++ [.semicolon] := List.map_append
  constructor
  · rintro ⟨program, whole⟩
    unfold Juncture.Accepts
    rw [same, ← whole]
    exact Juncture.accepts_start_iff.mpr ⟨program, rfl⟩
  · intro reads
    obtain ⟨program, whole⟩ := Juncture.accepts_start_iff.mp reads
    exact ⟨program, (congrArg kinds whole).trans same⟩

theorem lacksSemicolon_of_read {here : Juncture}
    (reads : Juncture.start.read (kinds tokens) = some here)
    (closes : here.next .semicolon = some .start) : LacksSemicolon tokens := by
  rw [lacksSemicolon_iff, Juncture.Accepts, kinds, List.map_append, Juncture.read_append, reads]
  show here.read [.semicolon] = _
  rw [Juncture.read_cons, closes]
  rfl

theorem lacksSemicolon_append_iff {program : List Form} :
    LacksSemicolon (programTokens program ++ tokens) ↔ LacksSemicolon tokens := by
  rw [lacksSemicolon_iff, lacksSemicolon_iff, List.append_assoc, Juncture.Accepts, read_program]
  rfl

/-- What a semicolon completes are whole statements and the stem of another one. -/
theorem LacksSemicolon.exists_stem (lacks : LacksSemicolon tokens) :
    ∃ (done : List Form) (form : Form), tokens = programTokens done ++ form.stem := by
  obtain ⟨program, whole⟩ := Juncture.accepts_start_iff.mp (lacksSemicolon_iff.mp lacks)
  obtain ⟨done, form, later, -, split, -⟩ := exists_form_of_semicolon whole rfl
  exact ⟨done, form, split⟩

end Grammar

/-! ### Runs that ask for a semicolon -/

section Failing

variable {tokens : List Token} {file : String} {diagnosis : Diagnosis}
  (failed : (validate tokens file).outcome = .error diagnosis)

include failed

/-- Only a semicolon is lacking where a run asks for one. -/
theorem lacksSemicolon_of_unexpectedToken {token : String}
    (fault : diagnosis.fault = .unexpectedToken token) :
    ¬ IsBarrier (validate tokens file).session.current.kind ∧
      LacksSemicolon ((closedTokens tokens file).take
        (validate tokens file).session.stream.index) := by
  obtain ⟨here, reads, -⟩ := exists_juncture_of_validate_eq_error failed
  have explains := explains_of_validate_eq_error failed
  unfold Session.Explains at explains
  rw [fault, seen_validate] at explains
  obtain ⟨plain, -, form, before, whole⟩ := explains
  refine ⟨plain, lacksSemicolon_of_read reads ?_⟩
  rw [← whole, kinds, List.map_append, Juncture.read_append] at reads
  obtain ⟨between, -, stem⟩ := Option.bind_eq_some_iff.mp reads
  rw [Juncture.Accepts.eq_closing stem]
  exact form.next_closing_semicolon

/-- Where only a semicolon is lacking, a run asks for it, unless its reason is scope or type. -/
theorem unexpectedToken_of_lacksSemicolon
    (notSemantic : diagnosis.fault.category ≠ .semantic)
    (plain : ¬ IsBarrier (validate tokens file).session.current.kind)
    (lacks : LacksSemicolon ((closedTokens tokens file).take
      (validate tokens file).session.stream.index)) :
    diagnosis.fault = .unexpectedToken (validate tokens file).session.current.value := by
  obtain ⟨here, reads, reason⟩ := exists_juncture_of_validate_eq_error failed
  obtain ⟨program, completed⟩ := exists_completed tokens file
  obtain ⟨-, last, fails, left⟩ := completed.session_of_error failed
  obtain ⟨⟨count, moved⟩, -⟩ := completed.session_cases
  have registered := Completed.productions_behind tokens file program
  rw [completed.take_index moved] at lacks reads
  obtain ⟨done, form, split⟩ := (lacksSemicolon_append_iff.mp lacks).exists_stem
  have front : programTokens done ++ form.stem <+:
      (Session.behind tokens file program).stream.ahead := split ▸ List.take_prefix count _
  cases done with
  | cons whole done =>
    refine absurd (category_of_fails_statement registered whole ?_ fails) notSemantic
    rw [programTokens_cons, List.append_assoc] at front
    exact (List.prefix_append _ _).trans front
  | nil =>
    -- The run has passed the stem and nothing behind it, and is stuck there.
    have stream : (validate tokens file).session.stream =
        (Session.behind tokens file program).stream.pass form.stem.length :=
      moved.trans (TokenStream.pass_eq_of_take split)
    have current : ((Session.behind tokens file program).pass form.stem.length).current =
        (validate tokens file).session.current := congrArg TokenStream.current stream.symm
    rw [read_program, split] at reads
    obtain rfl := Juncture.Accepts.eq_closing reads
    have refused : form.closing.next (validate tokens file).session.current.kind = none := by
      rcases reason.resolve_left notSemantic with ⟨refused, -⟩ | ⟨inBody, -, -⟩
      · exact refused
      · rcases form.closing_cases with closing | closing <;> exact nomatch closing.symm.trans inBody
    have unclosed : (Session.behind tokens file program).Unclosed form.stem form.closing :=
      ⟨front, by rw [current]; exact refused⟩
    rcases diagnosis_of_fails_unclosed registered unclosed fails with semantic | rfl
    · exact absurd semantic notSemantic
    · rw [current]
      exact Fault.unclosedBy_of_not_isBarrier plain

end Failing

/-! ### Programs without one of their semicolons -/

/-- Where the innermost statement begins that the semicolon of the statement closes: its body, if it
has one. -/
def Statement.begun (statement : Statement) : Position :=
  match statement.body with
  | some body => body.span.start
  | none => statement.span.start

namespace Grammar

theorem Form.begun_statement (form : Form) : form.statement.begun = form.begun := by
  cases form <;> rfl

theorem Form.noEnd_stem (form : Form) : NoEnd form.stem := by
  intro token member
  refine form.noEnd token ?_
  rw [form.tokens_eq_stem_append]
  exact List.mem_append_left _ member

theorem Form.stem_ne_nil (form : Form) : form.stem ≠ [] := by
  cases form with
  | declaration tree => exact List.cons_ne_nil _ _
  | simple tree => cases tree <;> exact List.cons_ne_nil _ _
  | conditional tree => exact List.cons_ne_nil _ _

/-- Behind a program, a statement begins or the input ends. -/
theorem begins_or_ends {program : List Form} {ahead : List Token} {last : Token}
    (whole : programTokens program = beforeEnd ahead) (ended : last.kind = .endOfInput) :
    (∃ there, Juncture.start.next (ahead.head?.getD last).kind = some there) ∨
      (ahead.head?.getD last).kind = .endOfInput := by
  cases ahead with
  | nil => exact Or.inr ended
  | cons token rest =>
    by_cases ends : token.kind = .endOfInput
    · exact Or.inr ends
    · have shape : beforeEnd (token :: rest) = token :: beforeEnd rest :=
        List.takeWhile_cons_of_pos (decide_eq_true ends)
      have reads := Juncture.accepts_start_iff.mpr ⟨program, whole.trans shape⟩
      obtain ⟨there, leads, -⟩ := Juncture.accepts_cons_iff.mp reads
      exact Or.inl ⟨there, leads⟩

/-- What begins a statement does not go on with another one, and neither does the end of the
input. -/
theorem Form.next_closing_eq_none (form : Form) {kind : TokenKind}
    (follows : (∃ there, Juncture.start.next kind = some there) ∨ kind = .endOfInput) :
    form.closing.next kind = none := by
  rcases follows with ⟨there, leads⟩ | rfl
  · rcases form.closing_cases with closing | closing <;> rw [closing] <;>
      rcases Juncture.next_start_iff.mp leads with ⟨begins, -⟩ | ⟨begins, -⟩ | ⟨begins, -⟩ <;>
      rw [List.mem_singleton.mp begins] <;> rfl
  · exact Juncture.next_endOfInput _

end Grammar

/-- Which token closes the stream makes no difference to the fault. -/
theorem Fault.unclosedBy_getD (ahead : List Token) {first second : Token}
    (firstEnds : first.kind = .endOfInput) (secondEnds : second.kind = .endOfInput) :
    Fault.unclosedBy (ahead.head?.getD first) = Fault.unclosedBy (ahead.head?.getD second) := by
  cases ahead with
  | nil =>
    show Fault.unclosedBy first = Fault.unclosedBy second
    unfold unclosedBy
    rw [firstEnds, secondEnds]
  | cons token rest => rfl

/-- Where a statement could begin or the input ends, a missing semicolon is no fault of the text. -/
theorem Fault.unclosedBy_of_follows {found : Token}
    (follows : (∃ there, Juncture.start.next found.kind = some there) ∨
      found.kind = .endOfInput) :
    Fault.unclosedBy found =
      if found.kind = .endOfInput then .unexpectedEndOfInput TokenKind.semicolon.describe
      else .unexpectedToken found.value := by
  rcases follows with ⟨there, leads⟩ | ended
  · have plain : ¬ IsBarrier found.kind := by
      rintro (kind | kind) <;> rw [kind] at leads <;> exact nomatch leads
    rw [Fault.unclosedBy_of_not_isBarrier plain, if_neg (not_or.mp plain).2]
  · unfold unclosedBy
    rw [ended, if_pos rfl]

/-- A program that lacks the semicolon of one statement fails at the token behind that statement. -/
theorem validate_without_semicolon {done later : List Form} {form : Form} {rest : List Token}
    (file : String) (fits : FitsFrom SymbolTable.empty (done ++ form :: later))
    (whole : programTokens later = beforeEnd rest) {last : Token}
    (ended : last.kind = .endOfInput) :
    (validate (programTokens done ++ (form.stem ++ rest)) file).outcome =
      .error ⟨.unclosedBy ((TokenStream.ofList rest file).ahead.head?.getD last), form.begun⟩ := by
  let behind := Session.behind (programTokens done ++ (form.stem ++ rest)) file done
  obtain ⟨doneFits, formFits, -⟩ := fitsFrom_append_iff.mp fits
  have registered : behind.productions = grammarProductions :=
    Completed.productions_behind _ file done
  have table : behind.symbols = programTable done := symbols_behind _ file done
  have ahead : behind.stream.ahead = form.stem ++ (TokenStream.ofList rest file).ahead :=
    (ahead_behind_append done _ file).trans
      (TokenStream.ahead_ofList_append form.noEnd_stem rest file)
  have front : form.stem <+: behind.stream.ahead := ⟨_, ahead.symm⟩
  have met : (behind.pass form.stem.length).current =
      (TokenStream.ofList rest file).ahead.head?.getD behind.stream.endToken :=
    Session.current_pass_of_ahead ahead
  have unclosed : behind.Unclosed form.stem form.closing := by
    refine ⟨front, form.next_closing_eq_none ?_⟩
    rw [met]
    exact begins_or_ends (whole.trans (beforeEnd_ahead_ofList rest file).symm) rfl
  have inScope : form.InScope behind.symbols.scope := by
    rw [table]
    exact formFits.inScope
  obtain ⟨after, failed⟩ := reports_statement_of_unclosed registered inScope unclosed
  have notEnd : behind.current.kind ≠ .endOfInput :=
    Session.kind_current_ne_end form.noEnd_stem form.stem_ne_nil front
  rw [met, Fault.unclosedBy_getD _ rfl ended] at failed
  exact (validate_of_fails (completes_append doneFits _ file) notEnd failed).1

/-- What follows a front that does not end the input is the first of the other tokens, or the token
that closes the list. -/
theorem getElem?_closedTokens_append {front : List Token} (noEnd : NoEnd front) (rest : List Token)
    (file : String) :
    (closedTokens (front ++ rest) file)[front.length]? =
      some ((TokenStream.ofList rest file).ahead.head?.getD
        (TokenStream.ofList (front ++ rest) file).endToken) := by
  rw [closedTokens, toList_of_unread (passed_ofList _ file), TokenStream.ahead_ofList_append noEnd,
    List.append_assoc, List.getElem?_append_right (Nat.le_refl _), Nat.sub_self]
  cases (TokenStream.ofList rest file).ahead <;> rfl

/-- A run that fails for the text or the grammar asks for a semicolon exactly if it has ended at a
token of the language where only a semicolon is lacking. So an accepted program fails without any
one of the semicolons before its first end of input. The run asks for it at the token that followed
it, unless the input ends there, and where the statement begins that it closed, or its body. -/
theorem missing_semicolon_exact (tokens : List Token) (file : String) :
    let read := closedTokens tokens file
    let index := (validate tokens file).session.stream.index
    (∀ diagnosis, (validate tokens file).outcome = .error diagnosis →
      (diagnosis.fault.category = .lexical ∨ diagnosis.fault.category = .grammatical) →
      ((∃ token, diagnosis.fault = .unexpectedToken token) ↔
        (∃ current, read[index]? = some current ∧ ¬ IsBarrier current.kind) ∧
          LacksSemicolon (read.take index))) ∧
    ∀ checked front semicolon rest, (validate tokens file).outcome = .ok checked →
      tokens = front ++ semicolon :: rest → semicolon.kind = .semicolon → NoEnd front →
      ∃ done statement later follower, checked = done ++ statement :: later ∧
        tokenCount done + statement.tokens = front.length + 1 ∧
        read[front.length + 1]? = some follower ∧
        (validate (front ++ rest) file).outcome =
          .error ⟨if follower.kind = .endOfInput then
              .unexpectedEndOfInput TokenKind.semicolon.describe
            else .unexpectedToken follower.value, statement.begun⟩ := by
  intro read index
  constructor
  · intro diagnosis failed category
    have current := getElem?_closedTokens_index tokens file
    have notSemantic : diagnosis.fault.category ≠ .semantic := by
      rcases category with category | category <;> rw [category] <;> decide
    constructor
    · rintro ⟨token, fault⟩
      obtain ⟨plain, lacks⟩ := lacksSemicolon_of_unexpectedToken failed fault
      exact ⟨⟨_, current, plain⟩, lacks⟩
    · rintro ⟨⟨other, found, plain⟩, lacks⟩
      obtain rfl := Option.some.inj (current.symm.trans found)
      exact ⟨_, unexpectedToken_of_lacksSemicolon failed notSemantic plain lacks⟩
  · rintro checked front semicolon rest accepted rfl kind noEnd
    obtain ⟨program, whole, fitting, rfl⟩ := (validate_eq_ok_iff _ file checked).mp accepted
    have closedNoEnd : NoEnd (front ++ [semicolon]) := by
      refine noEnd_append noEnd fun token member => ?_
      rw [List.mem_singleton.mp member, kind]
      decide
    have split : front ++ semicolon :: rest = (front ++ [semicolon]) ++ rest :=
      List.append_cons front semicolon rest
    have before : beforeEnd (front ++ semicolon :: rest) =
        front ++ semicolon :: beforeEnd rest := by
      rw [split, List.append_cons front semicolon (beforeEnd rest), beforeEnd_append closedNoEnd]
    obtain ⟨done, form, later, rfl, rfl, others⟩ :=
      exists_form_of_semicolon (whole.trans before) kind
    have fits := fitsFrom_empty_iff.mpr fitting
    have follower := getElem?_closedTokens_append closedNoEnd rest file
    rw [← split, List.length_append, List.length_singleton] at follower
    refine ⟨done.map Form.statement, form.statement, later.map Form.statement, _, List.map_append,
      ?_, follower, ?_⟩
    · rw [tokenCount_map_statement, form.tokens_statement, form.tokens_eq_stem_append]
      simp only [List.length_append, List.length_singleton, Nat.add_assoc]
    · have follows := begins_or_ends (others.symm.trans (beforeEnd_ahead_ofList rest file).symm)
        (rfl : (TokenStream.ofList (programTokens done ++ form.stem ++ semicolon :: rest)
          file).endToken.kind = .endOfInput)
      rw [← Fault.unclosedBy_of_follows follows, List.append_assoc, form.begun_statement]
      exact validate_without_semicolon file fits others.symm rfl

/-- Without its semicolon, the declaration meets the conditional behind it; without its last one,
the program ends within the body of the conditional. -/
theorem missing_semicolon_guardedOutput :
    (validate (guardedOutput.eraseIdx 3) "shell").outcome =
        .error ⟨.unexpectedToken "If", ⟨1, 1, "shell"⟩⟩ ∧
      LacksSemicolon (guardedOutput.take 3) ∧
      (validate guardedOutput "shell").outcome = .ok guardedOutputChecked ∧
      NoEnd (guardedOutput.take 13) ∧
      ∃ statement ∈ guardedOutputChecked,
        (validate (guardedOutput.take 13 ++ []) "shell").outcome =
          .error ⟨.unexpectedEndOfInput TokenKind.semicolon.describe, statement.begun⟩ := by
  have failed : (validate (guardedOutput.eraseIdx 3) "shell").outcome =
      .error ⟨.unexpectedToken "If", ⟨1, 1, "shell"⟩⟩ := by decide +kernel
  have noEnd : NoEnd (guardedOutput.take 13) := by unfold NoEnd; decide
  obtain ⟨-, lacks⟩ := ((missing_semicolon_exact (guardedOutput.eraseIdx 3) "shell").1 _ failed
    (Or.inr rfl)).mp ⟨"If", rfl⟩
  have read : (closedTokens (guardedOutput.eraseIdx 3) "shell").take
      (validate (guardedOutput.eraseIdx 3) "shell").session.stream.index =
        guardedOutput.take 3 := by
    decide +kernel
  rw [read] at lacks
  obtain ⟨done, statement, later, follower, split, -, found, outcome⟩ :=
    (missing_semicolon_exact guardedOutput "shell").2 _ (guardedOutput.take 13) _ []
      validate_guardedOutput rfl rfl noEnd
  have ended : follower.kind = .endOfInput := by
    have closed : (closedTokens guardedOutput "shell")[14]?.map Token.kind = some .endOfInput := rfl
    rw [show (closedTokens guardedOutput "shell")[14]? = some follower from found] at closed
    exact Option.some.inj closed
  rw [if_pos ended] at outcome
  refine ⟨failed, lacks, validate_guardedOutput, noEnd, statement, ?_, outcome⟩
  rw [split]
  exact List.mem_append_right _ List.mem_cons_self

/-- The tokens `x : integer ;` and, behind an end of input, `x := 5 ;`. -/
def continuedBehindEnd : List Token :=
  guardedDeclaration.take 4 ++
    [⟨.endOfInput, "EOF", ⟨⟨2, 1, "shell"⟩, ⟨2, 1, "shell"⟩⟩⟩, .brief .identifier "x" 3 1,
      ⟨.colonEquals, ":=", ⟨⟨3, 3, "shell"⟩, ⟨3, 5, "shell"⟩⟩⟩, .brief .integerLiteral "5" 3 6,
      .brief .semicolon ";" 3 7, ⟨.endOfInput, "EOF", ⟨⟨3, 8, "shell"⟩, ⟨3, 8, "shell"⟩⟩⟩]

/-- Behind the first end of input no semicolon is missed, because nothing is read there. -/
theorem not_missed_behind_end :
    ¬ ∀ (tokens : List Token) (file : String) (checked : List Statement) (front rest : List Token)
      (semicolon : Token), (validate tokens file).outcome = .ok checked →
        tokens = front ++ semicolon :: rest → semicolon.kind = .semicolon →
        ∃ diagnosis, (validate (front ++ rest) file).outcome = .error diagnosis := by
  intro missed
  let declaration : Statement :=
    ⟨⟨.declaration, ⟨⟨1, 1, "shell"⟩, ⟨1, 11, "shell"⟩⟩, 4⟩, none⟩
  have accepted : (validate continuedBehindEnd "shell").outcome = .ok [declaration] := by
    decide +kernel
  have unread : (validate (continuedBehindEnd.take 8 ++ continuedBehindEnd.drop 9)
      "shell").outcome = .ok [declaration] := by
    decide +kernel
  obtain ⟨diagnosis, failed⟩ := missed _ _ _ (continuedBehindEnd.take 8)
    (continuedBehindEnd.drop 9) _ accepted rfl rfl
  exact nomatch unread.symm.trans failed

end HLang
