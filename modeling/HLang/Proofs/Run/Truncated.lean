/-
This file says how a program that was cut off is diagnosed. The tokens of an accepted program are
read up to some index, and there the input ends, or text that is not of the language stands and
anything behind it. If the input ends between two statements, the statements before it are accepted.
Otherwise the run ends at the index, with the fault that names the barrier it met there. It is
reported at the statement that contains the index, or at its body if the index is not before it,
and the table is that of the statements before.
-/

import HLang.Proofs.Run.Extended
import HLang.Proofs.Run.Reported
import HLang.Proofs.Session.Cuts

namespace HLang

open Grammar Step

/-! ### Statements by the index of their tokens -/

/-- If the tokens of the statements are numbered through, the index of the first token of the
statement that contains the given index, and further on by what `inside` makes of the index within
that statement. Behind the last statement it is the number of their tokens. -/
def startAt (inside : Statement → Nat → Nat) : List Statement → Nat → Nat
  | [], _ => 0
  | first :: more, index =>
    if index < first.tokens then inside first index
    else first.tokens + startAt inside more (index - first.tokens)

/-- The index of the first token of the statement that contains the given index. -/
def statementAt : List Statement → Nat → Nat :=
  startAt fun _ _ => 0

/-- The number of tokens before the body of a statement, if the body contains the given index of the
statement. -/
def Statement.innermost (statement : Statement) (index : Nat) : Nat :=
  match statement.body with
  | some body =>
    if statement.tokens - body.tokens ≤ index then statement.tokens - body.tokens else 0
  | none => 0

/-- The index of the first token of the innermost statement that contains the given index: the body
of a conditional if the index is not before it, and the whole statement otherwise. -/
def innermostAt : List Statement → Nat → Nat :=
  startAt Statement.innermost

/-- The number of tokens of some statements. -/
def tokenCount : List Statement → Nat
  | [] => 0
  | first :: more => first.tokens + tokenCount more

/-- The tokens before the index are those of whole statements. -/
def IsBoundary (checked : List Statement) (index : Nat) : Prop :=
  ∃ done, done <+: checked ∧ tokenCount done = index

theorem startAt_zero {inside : Statement → Nat → Nat} (first : ∀ statement, inside statement 0 = 0)
    (checked : List Statement) : startAt inside checked 0 = 0 := by
  induction checked with
  | nil => rfl
  | cons statement more inductionHypothesis =>
    rw [startAt]
    split
    · exact first statement
    · rw [Nat.zero_sub, inductionHypothesis]
      omega

theorem Statement.innermost_zero (statement : Statement) : statement.innermost 0 = 0 := by
  unfold innermost
  split
  · split <;> omega
  · rfl

/-- The tokens before an index are those of whole statements exactly if it begins the statement that
contains it. -/
theorem isBoundary_iff {checked : List Statement} {index : Nat} :
    IsBoundary checked index ↔ statementAt checked index = index := by
  unfold statementAt
  constructor
  · rintro ⟨done, ⟨rest, rfl⟩, rfl⟩
    induction done with
    | nil => exact startAt_zero (fun _ => rfl) rest
    | cons first done inductionHypothesis =>
      rw [tokenCount, List.cons_append, startAt, if_neg (by omega), Nat.add_sub_cancel_left,
        inductionHypothesis]
  · intro begins
    induction checked generalizing index with
    | nil => exact ⟨[], List.nil_prefix, begins⟩
    | cons first more inductionHypothesis =>
      rw [startAt] at begins
      split at begins
      · exact ⟨[], List.nil_prefix, begins⟩
      · have later : startAt (fun _ _ => 0) more (index - first.tokens) = index - first.tokens := by
          omega
        obtain ⟨done, front, count⟩ := inductionHypothesis later
        refine ⟨first :: done, List.cons_prefix_cons.mpr ⟨rfl, front⟩, ?_⟩
        rw [tokenCount, count]
        omega

/-! ### Programs that are cut off -/

namespace Grammar

/-- Behind some statements, the numbering goes on with the number of their tokens. -/
theorem startAt_append (inside : Statement → Nat → Nat) (done : List Form) (more : List Statement)
    (offset : Nat) :
    startAt inside (done.map Form.statement ++ more) ((programTokens done).length + offset) =
      (programTokens done).length + startAt inside more offset := by
  induction done with
  | nil => exact (congrArg (startAt inside more) (Nat.zero_add offset)).trans (Nat.zero_add _).symm
  | cons form done inductionHypothesis =>
    have beyond : ¬ (programTokens (form :: done)).length + offset < form.statement.tokens := by
      rw [programTokens_cons, List.length_append, form.tokens_statement]
      omega
    have left : (programTokens (form :: done)).length + offset - form.statement.tokens =
        (programTokens done).length + offset := by
      rw [programTokens_cons, List.length_append, form.tokens_statement]
      omega
    rw [List.map_cons, List.cons_append, startAt, if_neg beyond, left, inductionHypothesis,
      programTokens_cons, List.length_append, form.tokens_statement, Nat.add_assoc]

/-- The tokens begin the first of the statements, and there are more of it. -/
def BeginsNext (front : List Token) : List Form → Prop
  | [] => False
  | form :: _ => front <+: form.tokens ∧ front ≠ form.tokens

/-- What a program begins with, up to any index, are whole statements and the beginning of another
one, unless the index is between two statements. -/
theorem exists_cut {program : List Form} {index : Nat}
    (within : index ≤ (programTokens program).length) :
    ∃ done rest front, program = done ++ rest ∧
      (programTokens program).take index = programTokens done ++ front ∧
      index = (programTokens done).length + front.length ∧
      (front ≠ [] → BeginsNext front rest) := by
  induction program generalizing index with
  | nil =>
    obtain rfl : index = 0 := Nat.le_zero.mp within
    exact ⟨[], [], [], rfl, rfl, rfl, fun other => absurd rfl other⟩
  | cons form program inductionHypothesis =>
    rw [programTokens_cons, List.length_append] at within
    by_cases inside : index < form.tokens.length
    · have length : (form.tokens.take index).length = index :=
        List.length_take_of_le (Nat.le_of_lt inside)
      refine ⟨[], form :: program, form.tokens.take index, rfl, ?_, ?_, fun _ =>
        ⟨List.take_prefix _ _, fun whole => ?_⟩⟩
      · exact List.take_append_of_le_length (Nat.le_of_lt inside)
      · exact length.symm.trans (Nat.zero_add _).symm
      · rw [whole] at length
        omega
    · have later : index - form.tokens.length ≤ (programTokens program).length := by omega
      obtain ⟨done, rest, front, rfl, taken, length, begins⟩ := inductionHypothesis later
      refine ⟨form :: done, rest, front, rfl, ?_, ?_, begins⟩
      · rw [programTokens_cons, programTokens_cons, List.take_append, taken,
          List.take_of_length_le (by omega), List.append_assoc]
      · rw [programTokens_cons, List.length_append]
        omega

/-- The index of a cut belongs to the statement that the tokens behind the whole ones begin. -/
theorem startAt_of_begins (inside : Statement → Nat → Nat) (done : List Form) {form : Form}
    {more : List Form} {front : List Token} (begins : BeginsNext front (form :: more)) :
    startAt inside ((done ++ form :: more).map Form.statement)
        ((programTokens done).length + front.length) =
      (programTokens done).length + inside form.statement front.length := by
  have shorter : front.length < form.statement.tokens := by
    rw [form.tokens_statement]
    exact Nat.lt_of_le_of_ne begins.1.length_le fun same => begins.2 (begins.1.eq_of_length same)
  rw [List.map_append, startAt_append, List.map_cons, startAt, if_pos shorter]

theorem startAt_of_boundary {inside : Statement → Nat → Nat}
    (first : ∀ statement, inside statement 0 = 0) (done rest : List Form) :
    startAt inside ((done ++ rest).map Form.statement) (programTokens done).length =
      (programTokens done).length := by
  have law := startAt_append inside done (rest.map Form.statement) 0
  rw [startAt_zero first] at law
  rw [List.map_append]
  exact law

/-- The tokens before the body of a conditional are those of its header. -/
theorem innermost_statement (form : Form) (index : Nat) :
    form.statement.innermost index =
      match form with
      | .conditional tree => if tree.header.length ≤ index then tree.header.length else 0
      | _ => 0 := by
  cases form with
  | declaration tree => rfl
  | simple tree => rfl
  | conditional tree =>
    have header : tree.tokens.length - tree.body.tokens.length = tree.header.length := by
      rw [tree.tokens_eq_header_append, List.length_append, Nat.add_sub_cancel_right]
    show (if tree.tokens.length - tree.body.tokens.length ≤ index then
      tree.tokens.length - tree.body.tokens.length else 0) = _
    rw [header]

/-- A header among the first tokens of a statement is that of a conditional, and the body behind it
contains the index; without one, the index is in no body. -/
theorem innermost_cases {form : Form} {front : List Token} (inside : front <+: form.tokens) :
    (∃ header : Header, header.tokens <+: front ∧
      form.statement.innermost front.length = header.tokens.length) ∨
    (∀ header : Header, ¬ header.tokens <+: front) ∧
      form.statement.innermost front.length = 0 := by
  have opens (header : Header) (among : header.tokens <+: front) {token : Token}
      {more : List Token} (shape : form.tokens = token :: more) : token.kind = .ifWord := by
    obtain ⟨rfl, -⟩ := List.cons_prefix_cons.mp (shape ▸ among.trans inside)
    exact header.word.kind_eq
  rw [innermost_statement]
  cases form with
  | declaration tree =>
    refine Or.inr ⟨fun header among => ?_, rfl⟩
    exact nomatch (opens header among rfl).symm.trans tree.name.kind_eq
  | simple tree =>
    refine Or.inr ⟨fun header among => ?_, rfl⟩
    cases tree with
    | assignment tree => exact nomatch (opens header among rfl).symm.trans tree.target.kind_eq
    | output tree => exact nomatch (opens header among rfl).symm.trans tree.word.kind_eq
  | conditional tree =>
    have own : tree.opening.tokens <+: tree.tokens := by
      rw [tree.tokens_eq_header_append]
      exact List.prefix_append _ _
    by_cases behind : tree.header.length ≤ front.length
    · exact Or.inl ⟨tree.opening, List.prefix_of_prefix_length_le own inside behind,
        if_pos behind⟩
    · refine Or.inr ⟨fun header among => behind ?_, if_neg behind⟩
      rw [show tree.header.length = header.tokens.length from
        Header.length_eq_of_isPrefix own (among.trans inside)]
      exact among.length_le

section Cut

variable {rest : List Form} {front : List Token} (done : List Form)
  (begins : front ≠ [] → BeginsNext front rest)

include begins

/-- The statement that contains the index of a cut begins behind the whole ones. -/
theorem statementAt_of_cut :
    statementAt ((done ++ rest).map Form.statement) ((programTokens done).length + front.length) =
      (programTokens done).length := by
  cases front with
  | nil => exact startAt_of_boundary (fun _ => rfl) done rest
  | cons token others =>
    cases rest with
    | nil => exact (begins (List.cons_ne_nil token others)).elim
    | cons form more => exact startAt_of_begins _ done (begins (List.cons_ne_nil token others))

/-- The innermost statement at a cut begins behind a header among the tokens in front of the cut,
or, without one, behind the whole statements. -/
theorem innermostAt_of_cut :
    ∃ passed, passed <+: front ∧
      innermostAt ((done ++ rest).map Form.statement)
        ((programTokens done).length + front.length) =
          (programTokens done).length + passed.length ∧
      ((∃ header : Header, header.tokens = passed) ∨
        passed = [] ∧ ∀ header : Header, ¬ header.tokens <+: front) := by
  cases front with
  | nil =>
    refine ⟨[], List.nil_prefix, startAt_of_boundary Statement.innermost_zero done rest,
      Or.inr ⟨rfl, fun header among => ?_⟩⟩
    exact absurd (List.prefix_nil.mp among) (List.cons_ne_nil _ _)
  | cons token others =>
    cases rest with
    | nil => exact (begins (List.cons_ne_nil token others)).elim
    | cons form more =>
      have next := begins (List.cons_ne_nil token others)
      have innermost := startAt_of_begins Statement.innermost done next
      rcases innermost_cases next.1 with ⟨header, among, inside⟩ | ⟨none, outside⟩
      · refine ⟨header.tokens, among, ?_, Or.inl ⟨header, rfl⟩⟩
        rw [← inside]
        exact innermost
      · refine ⟨[], List.nil_prefix, ?_, Or.inr ⟨rfl, none⟩⟩
        rw [outside] at innermost
        exact innermost

end Cut

end Grammar

/-! ### Statements that are cut off -/

/-- A statement that fails at a cut is reported at its first token, or at the first token behind a
header among those before the cut. -/
theorem Step.position_of_cut {session after : Session} {diagnosis : Diagnosis}
    {front : List Token} (registered : session.productions = grammarProductions)
    (inside : front <+: session.stream.ahead)
    (failed : Fails statement session diagnosis after)
    (stream : after.stream = session.stream.pass front.length) :
    (∀ header : Header, header.tokens <+: front →
      (session.stream.pass header.tokens.length).current.span.start = diagnosis.position) ∧
    ((∀ header : Header, ¬ header.tokens <+: front) →
      session.stream.current.span.start = diagnosis.position) := by
  obtain ⟨count, moved, -, inBody, atStart⟩ := position_of_fails_statement registered failed
  have same : session.stream.ahead.take count = front := by
    have passed := congrArg TokenStream.passed (moved.symm.trans stream)
    have taken := List.reverse_inj.mp (List.append_cancel_right passed)
    exact taken.trans (List.prefix_iff_eq_take.mp inside).symm
  rw [same] at inBody atStart
  exact ⟨inBody, atStart⟩

/-- Behind whole statements, the statement that was begun halts at the cut; if none was, none begins
at the barrier. -/
theorem Step.haltsAt_of_begins {session : Session} {front : List Token} {rest : List Form}
    (registered : session.productions = grammarProductions)
    (fits : FitsFrom session.symbols rest) (begins : front ≠ [] → BeginsNext front rest)
    (cut : session.CutBehind front) : HaltsAt front.length statement session := by
  cases front with
  | nil => exact haltsAt_statement registered cut.barrier
  | cons token others =>
    cases rest with
    | nil => exact (begins (List.cons_ne_nil token others)).elim
    | cons form more =>
      obtain ⟨inside, proper⟩ := begins (List.cons_ne_nil token others)
      exact haltsWithin_statement registered fits.1 _ inside proper cut

/-! ### Runs that are cut off -/

/-- The run over the cut tokens has ended with the fault at the index of the cut. It is reported at
the innermost of the checked statements that contains the index, and the table is that of the
statements before, which are accepted. -/
structure DiagnosedAt (tokens : List Token) (file : String) (checked : List Statement) (index : Nat)
    (cut : List Token) (fault : Fault) : Prop where
  outcome : ∃ place, (validate cut file).outcome = .error ⟨fault, place⟩ ∧
    ((closedTokens cut file)[innermostAt checked index]?).map (fun token => token.span.start) =
      some place
  ended : (validate cut file).session.stream.index = index
  before : ∃ done, done <+: checked ∧
    (validate (tokens.take (statementAt checked index)) file).outcome = .ok done
  symbols : (validate cut file).session.symbols =
    (validate (tokens.take (statementAt checked index)) file).session.symbols

/-- Behind whole statements, the beginning of another one stands, or none of it, and then a barrier
that does not end the run. -/
theorem exists_fault_of_cut {done rest : List Form} {front more : List Token} {file : String}
    (fits : FitsFrom SymbolTable.empty (done ++ rest)) (begins : front ≠ [] → BeginsNext front rest)
    (cut : (Session.behind (programTokens done ++ more) file done).CutBehind front)
    (notEnd : (Session.behind (programTokens done ++ more) file done).current.kind ≠ .endOfInput) :
    ∃ fault,
      BarredBy ((Session.behind (programTokens done ++ more) file done).pass front.length).current
        fault ∧
      DiagnosedAt (programTokens (done ++ rest)) file ((done ++ rest).map Form.statement)
        ((programTokens done).length + front.length) (programTokens done ++ more) fault := by
  let behind := Session.behind (programTokens done ++ more) file done
  obtain ⟨doneFits, restFits⟩ := fitsFrom_append_iff.mp fits
  have registered : behind.productions = grammarProductions :=
    Completed.productions_behind _ file done
  have table : behind.symbols = programTable done := symbols_behind _ file done
  have halts : HaltsAt front.length statement behind := by
    refine haltsAt_of_begins registered ?_ begins cut
    rw [table]
    exact restFits
  obtain ⟨diagnosis, last, failed, stream, barred⟩ := halts
  obtain ⟨outcome, session, completed⟩ :=
    validate_of_fails (completes_append doneFits more file) notEnd failed
  have current : last.current = (behind.pass front.length).current :=
    congrArg TokenStream.current stream
  have start := statementAt_of_cut done begins
  have whole : (programTokens (done ++ rest)).take (programTokens done).length =
      programTokens done := by
    rw [programTokens_append]
    exact List.take_left
  have before := validate_programTokens doneFits file
  refine ⟨diagnosis.fault, current ▸ barred, ⟨diagnosis.position, outcome, ?_⟩, ?_, ?_, ?_⟩
  · obtain ⟨passed, among, innermost, shape⟩ := innermostAt_of_cut done begins
    obtain ⟨inBody, atStart⟩ := position_of_cut registered cut.front failed stream
    rw [innermost, completed.getElem?_behind (among.trans cut.front), Option.map_some]
    rcases shape with ⟨header, rfl⟩ | ⟨rfl, none⟩
    · exact congrArg some (inBody header among)
    · exact congrArg some (atStart none)
  · rw [session]
    show last.stream.index = _
    rw [stream, TokenStream.index_pass cut.front, completed.index_behind]
  · refine ⟨done.map Form.statement, ?_, ?_⟩
    · rw [List.map_append]
      exact List.prefix_append _ _
    · rw [start, whole]
      exact before.1
  · rw [session, start, whole, before.2]
    exact (symbols_of_fails_statement registered failed).trans table

/-- Behind some of the tokens ahead, the first of the others is current. -/
theorem Session.current_pass_of_ahead {session : Session} {front later : List Token}
    (ahead : session.stream.ahead = front ++ later) :
    (session.pass front.length).current = later.head?.getD session.stream.endToken := by
  show ((session.stream.ahead.drop front.length).head?).getD session.stream.endToken = _
  rw [ahead, List.drop_left]

section Barriers

variable {done rest : List Form} {front : List Token} (file : String)
  (fits : FitsFrom SymbolTable.empty (done ++ rest)) (begins : front ≠ [] → BeginsNext front rest)
  (noEnd : NoEnd front)

include fits begins noEnd

/-- Within a statement, the end of the input is unexpected. -/
theorem diagnosedAt_end (inside : front ≠ []) :
    ∃ expected, DiagnosedAt (programTokens (done ++ rest)) file
      ((done ++ rest).map Form.statement) ((programTokens done).length + front.length)
      (programTokens done ++ front) (.unexpectedEndOfInput expected) := by
  have ahead : (Session.behind (programTokens done ++ front) file done).stream.ahead =
      front ++ [] := by
    have closed := TokenStream.ahead_ofList_append noEnd [] file
    rw [List.append_nil] at closed
    exact (ahead_behind_append done front file).trans closed
  have met := Session.current_pass_of_ahead ahead
  have cut : (Session.behind (programTokens done ++ front) file done).CutBehind front :=
    ⟨⟨[], ahead.symm⟩, Or.inr (congrArg Token.kind met)⟩
  obtain ⟨fault, barred, diagnosed⟩ := exists_fault_of_cut fits begins cut
    (Session.kind_current_ne_end noEnd inside cut.front)
  rw [met] at barred
  cases barred with
  | unknown kind => exact nomatch kind
  | ended kind expected => exact ⟨expected, diagnosed⟩

/-- Wherever text stands that is not of the language, it is unrecognised. -/
theorem diagnosedAt_unknown {unknown : Token} (kind : unknown.kind = .unknown)
    (others : List Token) :
    DiagnosedAt (programTokens (done ++ rest)) file ((done ++ rest).map Form.statement)
      ((programTokens done).length + front.length)
      (programTokens done ++ (front ++ [unknown] ++ others))
      (.unrecognisedToken unknown.value) := by
  have plain : NoEnd (front ++ [unknown]) := by
    refine noEnd_append noEnd fun token member => ?_
    rw [List.mem_singleton.mp member, kind]
    decide
  have ahead : (Session.behind (programTokens done ++ (front ++ [unknown] ++ others)) file
      done).stream.ahead = front ++ [unknown] ++ (TokenStream.ofList others file).ahead :=
    (ahead_behind_append done _ file).trans (TokenStream.ahead_ofList_append plain others file)
  have met : ((Session.behind (programTokens done ++ (front ++ [unknown] ++ others)) file
      done).pass front.length).current = unknown :=
    Session.current_pass_of_ahead (ahead.trans (List.append_assoc front [unknown] _))
  have cut : (Session.behind (programTokens done ++ (front ++ [unknown] ++ others)) file
      done).CutBehind front := by
    refine ⟨?_, Or.inl (by rw [met, kind])⟩
    rw [ahead, List.append_assoc]
    exact List.prefix_append _ _
  have notEnd := Session.kind_current_ne_end plain
    (List.append_ne_nil_of_right_ne_nil _ (List.cons_ne_nil _ _))
    (show front ++ [unknown] <+: _ from ⟨_, ahead.symm⟩)
  obtain ⟨fault, barred, diagnosed⟩ := exists_fault_of_cut fits begins cut notEnd
  rw [met] at barred
  cases barred with
  | unknown kind => exact diagnosed
  | ended isEnd expected => exact nomatch kind.symm.trans isEnd

end Barriers

/-- A program that was cut off is accepted if it was cut between two statements. Otherwise the end
of the input is unexpected. Text that is not of the language is unrecognised wherever it stands, and
whatever follows it. -/
theorem validate_cut {tokens : List Token} {file : String} {checked : List Statement} {index : Nat}
    (noEnd : NoEnd tokens) (accepted : (validate tokens file).outcome = .ok checked)
    (within : index ≤ tokens.length) :
    ((∃ done, (validate (tokens.take index) file).outcome = .ok done) ↔
        IsBoundary checked index) ∧
      (¬ IsBoundary checked index → ∃ expected,
        DiagnosedAt tokens file checked index (tokens.take index)
          (.unexpectedEndOfInput expected)) ∧
      ∀ unknown others, unknown.kind = .unknown →
        DiagnosedAt tokens file checked index (tokens.take index ++ unknown :: others)
          (.unrecognisedToken unknown.value) := by
  obtain ⟨program, rfl, fits, rfl⟩ := exists_program_of_accepted noEnd accepted
  obtain ⟨done, rest, front, rfl, taken, rfl, begins⟩ := exists_cut within
  rw [taken]
  have frontNoEnd : NoEnd front := fun token member =>
    noEnd token (List.mem_of_mem_take (taken ▸ List.mem_append_right _ member))
  have boundary : IsBoundary ((done ++ rest).map Form.statement)
      ((programTokens done).length + front.length) ↔ front = [] := by
    rw [isBoundary_iff, statementAt_of_cut done begins, ← List.length_eq_zero_iff]
    omega
  have ended (inside : ¬ IsBoundary ((done ++ rest).map Form.statement)
      ((programTokens done).length + front.length)) :=
    diagnosedAt_end file fits begins frontNoEnd (mt boundary.mpr inside)
  refine ⟨⟨fun ⟨whole, accepted⟩ => ?_, fun between => ?_⟩, ended, fun unknown others kind => ?_⟩
  · by_contra inside
    obtain ⟨expected, diagnosed⟩ := ended inside
    obtain ⟨place, failed, -⟩ := diagnosed.outcome
    exact nomatch accepted.symm.trans failed
  · rw [boundary.mp between, List.append_nil]
    exact ⟨_, (validate_programTokens (fitsFrom_append_iff.mp fits).1 file).1⟩
  · have diagnosed := diagnosedAt_unknown file fits begins frontNoEnd kind others
    rwa [List.append_assoc front, ← List.append_assoc] at diagnosed

/-- The tokens `x : integer ; If ( x < 1 ) output << x ;` on three lines, with the body of the
conditional on the third. -/
def guardedOutput : List Token :=
  guardedDeclaration.take 10 ++
    [⟨.outputWord, "output", ⟨⟨3, 1, "shell"⟩, ⟨3, 7, "shell"⟩⟩⟩, .brief .lessLess "<<" 3 8,
      .brief .identifier "x" 3 11, .brief .semicolon ";" 3 12]

/-- Within the body, the cut is reported on the line of the body, and not on that of the
conditional. -/
theorem validate_cut_guardedOutput :
    NoEnd guardedOutput ∧
      (∃ checked, (validate guardedOutput "shell").outcome = .ok checked ∧
        ¬ IsBoundary checked 12) ∧
      12 ≤ guardedOutput.length ∧
      (∃ expected, (validate (guardedOutput.take 12) "shell").outcome =
        .error ⟨.unexpectedEndOfInput expected, ⟨3, 1, "shell"⟩⟩) ∧
      (validate (guardedOutput.take 12 ++ [.brief .unknown "#" 4 1]) "shell").outcome =
        .error ⟨.unrecognisedToken "#", ⟨3, 1, "shell"⟩⟩ := by
  have noEnd : NoEnd guardedOutput := by unfold NoEnd; decide
  let checked : List Statement :=
    [⟨⟨.declaration, ⟨⟨1, 1, "shell"⟩, ⟨1, 11, "shell"⟩⟩, 4⟩, none⟩,
      ⟨⟨.conditional, ⟨⟨2, 1, "shell"⟩, ⟨3, 13, "shell"⟩⟩, 10⟩,
        some ⟨.output, ⟨⟨3, 1, "shell"⟩, ⟨3, 13, "shell"⟩⟩, 4⟩⟩]
  have accepted : (validate guardedOutput "shell").outcome = .ok checked := by decide +kernel
  have within : 12 ≤ guardedOutput.length := by decide
  obtain ⟨-, ended, unrecognised⟩ := validate_cut noEnd accepted within
  have begun : statementAt checked 12 = 4 := rfl
  have inside : ¬ IsBoundary checked 12 := by
    rw [isBoundary_iff, begun]
    decide
  refine ⟨noEnd, ⟨_, accepted, inside⟩, within, ?_, ?_⟩
  · obtain ⟨expected, diagnosed⟩ := ended inside
    obtain ⟨place, failed, start⟩ := diagnosed.outcome
    obtain rfl : _ = place := Option.some.inj start
    exact ⟨expected, failed⟩
  · obtain ⟨place, failed, start⟩ := (unrecognised (.brief .unknown "#" 4 1) [] rfl).outcome
    obtain rfl : _ = place := Option.some.inj start
    exact failed

end HLang
