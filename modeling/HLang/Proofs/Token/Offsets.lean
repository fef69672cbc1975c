/-
This file proves that a cursor is where its offset says. A cursor counts bytes, rows and columns on
its way and never looks back, so where it says that it stands could depend on how it came there: on
the lengths of its hops, on the line feeds between them, on the values of the tokens it took, which
need not be the text that stood there, and on the hops that did not succeed. It depends on none of
them.

All that a cursor counts is decided by the front of the text that it has left behind, and every hop
keeps this. The number of bytes of a front decides the front, because a character has at least one
byte; so the offset decides everything.

The scanner is one such cursor. It hops over the pieces of its text one after the other, and the
tokens of a text are those that this cursor takes on its way.
-/

import HLang.Proofs.Token.Joined
import Mathlib.Algebra.GroupWithZero.Nat
import Mathlib.Data.List.DropRight
import Mathlib.Data.String.Basic

namespace HLang

open String (utf8Len)

/-! ### Fronts of a text and their bytes -/

section Fronts

variable {first second whole : List Char}

/-- A text that is no longer in bytes than a front of it is that front. -/
theorem eq_of_isPrefix_of_utf8Len_le (front : first <+: second)
    (bytes : utf8Len second ≤ utf8Len first) : first = second := by
  obtain ⟨rest, rfl⟩ := front
  have nothing : utf8Len rest = 0 := by
    rw [String.utf8Len_append] at bytes
    omega
  rw [String.utf8Len_eq_zero.mp nothing, List.append_nil]

/-- Of two fronts of a text, one with no more bytes is a front of the other. -/
theorem isPrefix_of_utf8Len_le (front : first <+: whole) (otherFront : second <+: whole)
    (bytes : utf8Len first ≤ utf8Len second) : first <+: second := by
  rcases List.prefix_or_prefix_of_prefix front otherFront with within | beyond
  · exact within
  · obtain rfl := eq_of_isPrefix_of_utf8Len_le beyond bytes
    exact List.prefix_rfl

/-- A front of a text is decided by the number of its bytes. -/
theorem eq_of_utf8Len_eq (front : first <+: whole) (otherFront : second <+: whole)
    (bytes : utf8Len first = utf8Len second) : first = second :=
  eq_of_isPrefix_of_utf8Len_le (isPrefix_of_utf8Len_le front otherFront (Nat.le_of_eq bytes))
    (Nat.le_of_eq bytes.symm)

/-- The character boundaries of a text are the ends of its fronts. -/
theorem isValid_iff_exists_front {text : String} {offset : Nat} :
    (String.Pos.Raw.mk offset).IsValid text ↔
      ∃ front, front <+: text.toList ∧ utf8Len front = offset := by
  rw [String.Pos.Raw.isValid_iff_exists_append]
  constructor
  · rintro ⟨front, rest, rfl, ends⟩
    refine ⟨front.toList, ⟨rest.toList, String.toList_append.symm⟩, ?_⟩
    rw [String.utf8Len_toList]
    exact (congrArg String.Pos.Raw.byteIdx ends).symm
  · rintro ⟨front, ⟨rest, whole⟩, rfl⟩
    refine ⟨String.ofList front, String.ofList rest, ?_, ?_⟩
    · rw [← String.ofList_append, whole, String.ofList_toList]
    · exact (String.rawEndPos_ofList front).symm

/-- A number of bytes can be cut off a text exactly if a front of the text has that number. -/
theorem cutBytes_eq_some_iff {bytes : Nat} {text front rest : List Char} :
    cutBytes bytes text = some (front, rest) ↔ front ++ rest = text ∧ utf8Len front = bytes := by
  fun_induction cutBytes bytes text generalizing front with
  | case1 text =>
    rw [Option.some.injEq, Prod.mk.injEq, String.utf8Len_eq_zero]
    constructor
    · rintro ⟨rfl, rfl⟩
      exact ⟨rfl, rfl⟩
    · rintro ⟨rfl, rfl⟩
      exact ⟨rfl, rfl⟩
  | case2 bytes =>
    refine ⟨fun cut => (nomatch cut), fun ⟨whole, length⟩ => ?_⟩
    rw [(List.append_eq_nil_iff.mp whole).1] at length
    cases length
  | case3 bytes c text fits inductionHypothesis =>
    rw [Option.map_eq_some_iff]
    constructor
    · rintro ⟨⟨more, behind⟩, cut, same⟩
      cases same
      obtain ⟨whole, length⟩ := inductionHypothesis.mp cut
      refine ⟨congrArg (c :: ·) whole, ?_⟩
      show utf8Len more + c.utf8Size = bytes + 1
      omega
    · rintro ⟨whole, length⟩
      cases front with
      | nil => cases length
      | cons head more =>
        obtain ⟨rfl, rfl⟩ := List.cons.inj whole
        rw [String.utf8Len_cons] at length
        exact ⟨(more, rest), inductionHypothesis.mpr ⟨rfl, by omega⟩, rfl⟩
  | case4 bytes c text wide =>
    -- A front with this character in it has more bytes than are to be cut off.
    refine ⟨fun cut => (nomatch cut), fun ⟨whole, length⟩ => ?_⟩
    cases front with
    | nil => cases length
    | cons head more =>
      obtain ⟨rfl, -⟩ := List.cons.inj whole
      rw [String.utf8Len_cons] at length
      omega

end Fronts

/-! ### What a front says of a place -/

theorem Place.offset_past (place : Place) (text : List Char) :
    (place.past text).offset = place.offset + utf8Len text := by
  induction text generalizing place with
  | nil => rfl
  | cons c rest inductionHypothesis =>
    have step : (place.after c).offset = place.offset + c.utf8Size := by
      unfold Place.after
      split <;> rfl
    show ((place.after c).past rest).offset = _
    rw [inductionHypothesis, step, String.utf8Len_cons, Nat.add_assoc, Nat.add_comm c.utf8Size]

/-- The last row of a text is what stands behind its last line feed. -/
theorem lastRow_eq_rtakeWhile (text : List Char) :
    lastRow text = text.rtakeWhile (· ≠ '\n') := by
  induction text using List.reverseRecOn with
  | nil => rfl
  | append_singleton text c inductionHypothesis =>
    rw [List.rtakeWhile_concat]
    by_cases feed : c = '\n'
    · rw [feed, (rows_lineFeed text).2]
      rfl
    · have sameRow : '\n' ∉ [c] := fun member => feed (List.mem_singleton.mp member).symm
      rw [(rows_append sameRow text).2, inductionHypothesis, if_pos (decide_eq_true feed)]

/-! ### Hops -/

/-- A hop over a number of bytes, or over a token that is taken on the way. -/
inductive Hop where
  | advance (bytes : Nat)
  | take (kind : TokenKind) (value : String)

/-- How far a hop goes. The value of a token counts, and not the text that stands there. -/
def Hop.bytes : Hop → Nat
  | .advance bytes => bytes
  | .take _ value => value.utf8ByteSize

/-- A cursor on its way through a text, with the tokens that it has taken. -/
structure Reading where
  cursor : Cursor
  taken : List Token

namespace Reading

/-- A reading that begins at the front of a cleaned text. -/
def start (clean : CleanSource) (file : String) : Reading :=
  ⟨Cursor.start clean file, []⟩

/-- The reading after a hop, if the hop succeeds. -/
def hop? (reading : Reading) : Hop → Option Reading
  | .advance bytes => (reading.cursor.advance? bytes).map fun next => { reading with cursor := next }
  | .take kind value =>
    (reading.cursor.take? kind value).map fun entry => ⟨entry.2, reading.taken ++ [entry.1]⟩

/-- The reading after a hop was tried. -/
def attempt (reading : Reading) (hop : Hop) : Reading :=
  (reading.hop? hop).getD reading

/-- The reading after all hops were tried in order. -/
def run (reading : Reading) (hops : List Hop) : Reading :=
  hops.foldl attempt reading

/-- Those of the hops that succeed. -/
def accepted : Reading → List Hop → List Hop
  | _, [] => []
  | reading, first :: more =>
    match reading.hop? first with
    | some next => first :: accepted next more
    | none => accepted reading more

/-- How far the hops that succeed go together. -/
def distance (reading : Reading) (hops : List Hop) : Nat :=
  ((reading.accepted hops).map Hop.bytes).sum

variable {reading next : Reading} {hop : Hop}

theorem distance_cons_of_some (succeeds : reading.hop? hop = some next) (more : List Hop) :
    reading.distance (hop :: more) = hop.bytes + next.distance more := by
  unfold distance
  rw [accepted, succeeds, List.map_cons, List.sum_cons]

theorem distance_cons_of_none (fails : reading.hop? hop = none) (more : List Hop) :
    reading.distance (hop :: more) = reading.distance more := by
  unfold distance
  rw [accepted, fails]

/-- A hop moves the cursor as its bytes do, whether it takes a token or not. -/
theorem map_cursor_hop? (reading : Reading) (hop : Hop) :
    (reading.hop? hop).map Reading.cursor = reading.cursor.advance? hop.bytes := by
  cases hop with
  | advance bytes =>
    rw [hop?, Option.map_map]
    exact Option.map_id'
  | take kind value =>
    rw [hop?, Cursor.take?, Option.map_map, Option.map_map]
    exact Option.map_id'

/-! ### What every hop keeps -/

variable {clean : CleanSource} {file : String} {front : List Char}

/-- The cursor of the reading has left `front` behind, and has counted nothing else. -/
structure Behind (reading : Reading) (clean : CleanSource) (file : String)
    (front : List Char) : Prop where
  whole : front ++ reading.cursor.remaining = clean.text.toList
  counted : reading.cursor = ⟨clean, file, Place.start.past front, reading.cursor.remaining⟩

theorem behind_start (clean : CleanSource) (file : String) :
    (start clean file).Behind clean file [] :=
  ⟨rfl, rfl⟩

/-- A hop that succeeds leaves as many bytes more behind as it crosses. -/
theorem Behind.exists_crossed (behind : reading.Behind clean file front)
    (succeeds : reading.hop? hop = some next) :
    ∃ crossed, next.Behind clean file (front ++ crossed) ∧ utf8Len crossed = hop.bytes := by
  have moved := reading.map_cursor_hop? hop
  rw [succeeds, Option.map_some, Cursor.advance?] at moved
  obtain ⟨⟨crossed, rest⟩, cut, same⟩ := Option.map_eq_some_iff.mp moved.symm
  obtain ⟨split, length⟩ := cutBytes_eq_some_iff.mp cut
  refine ⟨crossed, ⟨?_, ?_⟩, length⟩
  · rw [← same, List.append_assoc, split]
    exact behind.whole
  · rw [← same, behind.counted, Place.past_append]

/-- A hop succeeds exactly if it ends on a character boundary. -/
theorem Behind.isSome_hop?_iff (behind : reading.Behind clean file front) :
    (reading.hop? hop).isSome = true ↔
      (String.Pos.Raw.mk (utf8Len front + hop.bytes)).IsValid clean.text := by
  rw [isValid_iff_exists_front]
  constructor
  · intro succeeds
    obtain ⟨next, moved⟩ := Option.isSome_iff_exists.mp succeeds
    obtain ⟨crossed, ⟨whole, -⟩, length⟩ := behind.exists_crossed moved
    exact ⟨front ++ crossed, ⟨_, whole⟩, by rw [String.utf8Len_append, length]⟩
  · rintro ⟨further, isFront, length⟩
    have within : front <+: further :=
      isPrefix_of_utf8Len_le ⟨_, behind.whole⟩ isFront (by omega)
    obtain ⟨crossed, rfl⟩ := within
    obtain ⟨rest, whole⟩ := isFront
    rw [List.append_assoc, ← behind.whole] at whole
    rw [String.utf8Len_append] at length
    have cut := cutBytes_eq_some_iff.mpr
      ⟨List.append_cancel_left whole, Nat.add_left_cancel length⟩
    rw [← Option.isSome_map, map_cursor_hop?, Cursor.advance?, Option.isSome_map, cut,
      Option.isSome_some]

theorem attempt_of_some (succeeds : reading.hop? hop = some next) : reading.attempt hop = next := by
  rw [attempt, succeeds, Option.getD_some]

theorem attempt_of_none (fails : reading.hop? hop = none) : reading.attempt hop = reading := by
  rw [attempt, fails, Option.getD_none]

/-- However the hops end, what is left behind is as long as those that succeed. -/
theorem Behind.run (behind : reading.Behind clean file front) (hops : List Hop) :
    ∃ further, (reading.run hops).Behind clean file further ∧
      utf8Len further = utf8Len front + reading.distance hops := by
  induction hops generalizing reading front with
  | nil => exact ⟨front, behind, rfl⟩
  | cons first more inductionHypothesis =>
    show ∃ further, ((reading.attempt first).run more).Behind clean file further ∧ _
    -- A hop that does not succeed is counted on neither side.
    cases moved : reading.hop? first with
    | none =>
      rw [attempt_of_none moved, distance_cons_of_none moved]
      exact inductionHypothesis behind
    | some next =>
      obtain ⟨crossed, later, length⟩ := behind.exists_crossed moved
      obtain ⟨further, last, total⟩ := inductionHypothesis later
      rw [attempt_of_some moved, distance_cons_of_some moved]
      refine ⟨further, last, ?_⟩
      rw [total, String.utf8Len_append, length, Nat.add_assoc]

/-- Two cursors with the same front behind them are the same. -/
theorem Behind.cursor_eq {other : Reading} (behind : reading.Behind clean file front)
    (otherBehind : other.Behind clean file front) : reading.cursor = other.cursor := by
  have remaining : reading.cursor.remaining = other.cursor.remaining :=
    List.append_cancel_left (behind.whole.trans otherBehind.whole.symm)
  rw [behind.counted, otherBehind.counted, remaining]

end Reading

/-! ### Where a cursor stands -/

/-- The cursor stands in the cleaned text behind `front`: the rest of the text is left to read, the
offset is the number of bytes of `front`, the line is the source line of the row that the line feeds
in `front` open, and the column counts the characters behind the last of them. -/
structure Cursor.StandsBehind (cursor : Cursor) (clean : CleanSource) (file : String)
    (front : List Char) : Prop where
  remaining : front ++ cursor.remaining = clean.text.toList
  offset : cursor.place.offset = utf8Len front
  line : ∃ row : UInt32, row.toNat = 1 + front.count '\n' ∧
    cursor.position.line = clean.sourceLine row
  column : cursor.position.column.toNat = 1 + (front.rtakeWhile (· ≠ '\n')).length
  file : cursor.position.file = file

namespace Reading

variable {reading : Reading} {clean : CleanSource} {file : String} {front : List Char}

theorem Behind.standsBehind (behind : reading.Behind clean file front)
    (short : clean.text.length < UInt32.size - 1) :
    reading.cursor.StandsBehind clean file front := by
  have within : front.length ≤ clean.text.length := by
    have lengths := congrArg List.length behind.whole
    rw [List.length_append, String.length_toList] at lengths
    omega
  have row : (Place.start.past front).row = 1 + front.count '\n' :=
    Place.row_past Place.start front
  have column : (Place.start.past front).column = 1 + (front.rtakeWhile (· ≠ '\n')).length := by
    rw [(Place.behind_past_start front).column, lastRow_eq_rtakeWhile, Nat.add_comm]
  have rowBound : front.count '\n' ≤ front.length := List.count_le_length
  have columnBound : (front.rtakeWhile (· ≠ '\n')).length ≤ front.length :=
    (List.rtakeWhile_suffix _ front).length_le
  refine ⟨behind.whole, ?_, ⟨UInt32.ofNat (1 + front.count '\n'), ?_, ?_⟩, ?_, ?_⟩
  · rw [behind.counted, Place.offset_past]
    exact Nat.zero_add _
  · exact UInt32.toNat_ofNat_of_lt' (by omega)
  · rw [behind.counted, ← row]
    rfl
  · rw [behind.counted, Cursor.position, Place.position, column]
    exact UInt32.toNat_ofNat_of_lt' (by omega)
  · rw [behind.counted]
    rfl

/-- Whatever hops were tried from the front of a cleaned text, the cursor stands as many bytes
behind it as those that succeed cross, at the line and column of the text in front of it. One hop
more succeeds exactly if it ends on a character boundary of the text, and changes nothing if it does
not. And hops that go equally far lead to the same cursor, however they divide the way. -/
theorem run_start_exact (clean : CleanSource) (file : String)
    (short : clean.text.length < UInt32.size - 1) (hops : List Hop) :
    (∃ front, ((start clean file).run hops).cursor.StandsBehind clean file front ∧
      utf8Len front = (start clean file).distance hops) ∧
    (∀ hop, (((start clean file).run hops).hop? hop).isSome = true ↔
      (String.Pos.Raw.mk ((start clean file).distance hops + hop.bytes)).IsValid clean.text) ∧
    (∀ hop, ((start clean file).run hops).hop? hop = none →
      (start clean file).run (hops ++ [hop]) = (start clean file).run hops) ∧
    ∀ others, (start clean file).distance others = (start clean file).distance hops →
      ((start clean file).run others).cursor = ((start clean file).run hops).cursor := by
  have reached (tried : List Hop) : ∃ front, ((start clean file).run tried).Behind clean file front ∧
      utf8Len front = (start clean file).distance tried := by
    obtain ⟨front, behind, length⟩ := (behind_start clean file).run tried
    exact ⟨front, behind, length.trans (Nat.zero_add _)⟩
  obtain ⟨front, behind, length⟩ := reached hops
  refine ⟨⟨front, behind.standsBehind short, length⟩, fun hop => ?_, fun hop fails => ?_,
    fun others same => ?_⟩
  · rw [← length]
    exact behind.isSome_hop?_iff
  · exact (List.foldl_concat _ _ _ _).trans (attempt_of_none fails)
  · obtain ⟨other, otherBehind, otherLength⟩ := reached others
    have fronts : other = front :=
      eq_of_utf8Len_eq ⟨_, otherBehind.whole⟩ ⟨_, behind.whole⟩
        (otherLength.trans (same.trans length.symm))
    exact (fronts ▸ otherBehind).cursor_eq behind

/-- The rows `é:` and `y`, kept from the second and the fifth line of a file. -/
def twoRows : CleanSource := ⟨"é:\ny", [2, 5]⟩

/-- Hops of which one ends inside a character, one takes a token that does not stand there, one goes
too far and one crosses a line feed. -/
def unevenHops : List Hop :=
  [.advance 1, .take .integerLiteral "42", .advance 9, .advance 2]

/-- The second row is reached by one hop as by these. -/
theorem run_start_unevenHops :
    twoRows.text.length < UInt32.size - 1 ∧
      (start twoRows "shell").distance unevenHops = (start twoRows "shell").distance [.advance 4] ∧
      ((start twoRows "shell").run unevenHops).cursor =
        ((start twoRows "shell").run [.advance 4]).cursor ∧
      ((start twoRows "shell").run [.advance 4]).cursor.position = ⟨5, 1, "shell"⟩ := by
  have short : twoRows.text.length < UInt32.size - 1 := by decide
  have same : (start twoRows "shell").distance unevenHops =
      (start twoRows "shell").distance [.advance 4] := by decide
  obtain ⟨-, -, -, reached⟩ := run_start_exact twoRows "shell" short [.advance 4]
  exact ⟨short, same, reached unevenHops same, by decide⟩

end Reading

/-! ### The hops of the scanner -/

/-- The hop over a piece: a lexeme is taken as a token, and whitespace is passed. -/
def Piece.hop (piece : Piece) : Hop :=
  match piece.kind with
  | none => .advance (utf8Len piece.text)
  | some kind => .take kind (String.ofList piece.text)

/-- The tokens that are taken on the way over a piece. -/
def Piece.takenAt (piece : Piece) (clean : CleanSource) (file : String) (place : Place) :
    List Token :=
  match piece.kind with
  | none => []
  | some kind => [⟨kind, String.ofList piece.text,
      ⟨place.position clean file, (place.past piece.text).position clean file⟩⟩]

theorem Piece.bytes_hop (piece : Piece) : piece.hop.bytes = utf8Len piece.text := by
  unfold Piece.hop
  split
  · rfl
  · rw [Hop.bytes, ← String.utf8Len_toList, String.toList_ofList]

namespace Reading

variable {clean : CleanSource} {file : String}

/-- Where a piece stands at the cursor, its hop crosses it. -/
theorem hop?_piece (place : Place) (piece : Piece) (rest : List Char) (taken : List Token) :
    hop? ⟨⟨clean, file, place, piece.text ++ rest⟩, taken⟩ piece.hop =
      some ⟨⟨clean, file, place.past piece.text, rest⟩,
        taken ++ piece.takenAt clean file place⟩ := by
  have cut : cutBytes piece.hop.bytes (piece.text ++ rest) = some (piece.text, rest) :=
    cutBytes_eq_some_iff.mpr ⟨rfl, piece.bytes_hop.symm⟩
  have moved : Cursor.advance? ⟨clean, file, place, piece.text ++ rest⟩ piece.hop.bytes =
      some ⟨clean, file, place.past piece.text, rest⟩ := by
    rw [Cursor.advance?, cut]
    rfl
  obtain ⟨kind, first, more⟩ := piece
  cases kind with
  | none =>
    rw [Piece.takenAt, List.append_nil]
    exact congrArg (Option.map _) moved
  | some kind => exact congrArg (Option.map _) (congrArg (Option.map _) moved)

/-- The cursor crosses pieces that follow one another, and the tokens that it takes are those that
the scanner places. -/
theorem run_pieces (pieces : List Piece) (place : Place) (taken : List Token) :
    let begun : Reading := ⟨⟨clean, file, place, pieces.flatMap Piece.text⟩, taken⟩
    let done := begun.run (pieces.map Piece.hop)
    begun.accepted (pieces.map Piece.hop) = pieces.map Piece.hop ∧ done.cursor.atEnd = true ∧
      done.taken ++ [Token.endOfInput done.cursor.position] =
        taken ++ placeTokens clean file place pieces := by
  induction pieces generalizing place taken with
  | nil => exact ⟨rfl, rfl, rfl⟩
  | cons piece more inductionHypothesis =>
    intro begun done
    have crossed : begun.hop? piece.hop = some _ :=
      hop?_piece place piece (more.flatMap Piece.text) taken
    obtain ⟨accepted, ended, tokens⟩ := inductionHypothesis (place.past piece.text)
      (taken ++ piece.takenAt clean file place)
    have later : done = run _ (more.map Piece.hop) :=
      congrArg (run · (more.map Piece.hop)) (attempt_of_some crossed)
    refine ⟨?_, later ▸ ended, ?_⟩
    · rw [List.map_cons, Reading.accepted, crossed]
      exact congrArg (piece.hop :: ·) accepted
    · rw [later, tokens, placeTokens, List.append_assoc]
      obtain ⟨kind, first, rest⟩ := piece
      cases kind <;> rfl

end Reading

/-- The scanner reads a cleaned text as a cursor does that takes the lexemes and passes the
whitespace: no hop fails, the whole text is crossed, and the tokens are those that were taken, with
the end of input where the cursor stands at last. -/
theorem CleanSource.tokens_eq_taken (clean : CleanSource) (file : String) :
    let begun := Reading.start clean file
    let hops := (pieces clean.text.toList).map Piece.hop
    begun.accepted hops = hops ∧ (begun.run hops).cursor.atEnd = true ∧
      clean.tokens file =
        (begun.run hops).taken ++ [Token.endOfInput (begun.run hops).cursor.position] := by
  intro begun hops
  have whole : begun = ⟨⟨clean, file, Place.start,
      (pieces clean.text.toList).flatMap Piece.text⟩, []⟩ := by
    rw [text_flatMap_pieces]
    rfl
  obtain ⟨accepted, ended, tokens⟩ := Reading.run_pieces (pieces clean.text.toList) Place.start []
  rw [← whole] at accepted ended tokens
  exact ⟨accepted, ended, tokens.symm⟩

end HLang
