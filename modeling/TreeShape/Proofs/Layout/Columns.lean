import Mathlib.Data.List.Basic
import TreeShape.Proofs.Layout.Pieces

/-!
# Columns of transcripts

A style may say anything about nodes.  It is tidy if all that it says starts with something visible, and
if what is not cut into lines has one line.  Then every piece of a transcript starts at the column of
its level, `Piece.IsTidy.exists_first`.

The lines of assertions and of replacements all move along with the first one.  Identities are not cut
into lines before they are indented.  So where an identity has more lines than one, the others stay
where they are, `hangs_iff`: to be moved along by chance they would have to be empty, since indenting
changes every other line (`indentLine_eq_self_iff`).
-/

namespace TreeShape

/-! ## Visible beginnings -/

/-- A text starts with something that is neither a space nor a line feed. -/
def IsFlush (text : String) : Prop := ∃ c cs, text.toList = c :: cs ∧ c ≠ ' ' ∧ c ≠ '\n'

def IsOneLine (text : String) : Prop := '\n' ∉ text.toList

instance (text : String) : Decidable (IsOneLine text) := inferInstanceAs (Decidable ('\n' ∉ text.toList))

variable {text other line : String}

theorem IsFlush.ne_empty (h : IsFlush text) : text ≠ "" := by
  rintro rfl
  obtain ⟨c, cs, hempty, -⟩ := h
  cases hempty

theorem IsFlush.append (h : IsFlush text) (other : String) : IsFlush (text ++ other) := by
  obtain ⟨c, cs, htext, hc⟩ := h
  exact ⟨c, cs ++ other.toList, by rw [String.toList_append, htext, List.cons_append], hc⟩

theorem isOneLine_append : IsOneLine (text ++ other) ↔ IsOneLine text ∧ IsOneLine other := by
  rw [IsOneLine, String.toList_append, List.mem_append]
  exact not_or

theorem IsOneLine.lines (h : IsOneLine text) : Text.lines text = [text] := Text.lines_of_not_mem h

/-- The first line of a text with a visible beginning has it too. -/
theorem IsFlush.lines (h : IsFlush text) :
    ∃ first more, Text.lines text = first :: more ∧ IsFlush first := by
  obtain ⟨c, cs, htext, hspace, hbreak⟩ := h
  obtain ⟨first, more, hcut⟩ := List.exists_cons_of_ne_nil (Text.cut_ne_nil cs)
  refine ⟨String.ofList (c :: first), more.map String.ofList, ?_,
    ⟨c, first, String.toList_ofList, hspace, hbreak⟩⟩
  rw [Text.lines, htext, Text.cut, if_neg hbreak, hcut]
  rfl

/-! ## Columns -/

namespace Transcript

/-- The column where a line starts, and what it says. -/
def readColumn (line : String) : Nat × String :=
  ((line.toList.takeWhile (· == ' ')).length, String.ofList (line.toList.dropWhile (· == ' ')))

/-- A line with a visible beginning is read at the column where it has been put. -/
theorem readColumn_indentLine (h : IsFlush line) (width : Nat) :
    readColumn (indentLine width line) = (width, line) := by
  have hne := h.ne_empty
  obtain ⟨c, cs, hline, hspace, -⟩ := h
  have hpad : ∀ d ∈ List.replicate width ' ', (d == ' ') = true := by
    intro d hd
    rw [List.eq_of_mem_replicate hd]
    rfl
  have hc : (c == ' ') = false := beq_eq_false_iff_ne.mpr hspace
  have htoList : (indentLine width line).toList = List.replicate width ' ' ++ c :: cs := by
    rw [indentLine_of_ne hne, String.toList_append, String.toList_ofList, hline]
  rw [readColumn, htoList, List.takeWhile_append_of_pos hpad, List.dropWhile_append_of_pos hpad,
    List.takeWhile_cons, List.dropWhile_cons, hc]
  simp [← hline]

theorem isOneLine_replicate (width : Nat) : IsOneLine (String.ofList (List.replicate width ' ')) := by
  rw [IsOneLine, String.toList_ofList]
  exact fun hmem => absurd (List.eq_of_mem_replicate hmem) (by decide)

theorem isOneLine_indentLine (h : IsOneLine line) (width : Nat) : IsOneLine (indentLine width line) := by
  unfold indentLine
  split
  · exact h
  · exact isOneLine_append.mpr ⟨isOneLine_replicate width, h⟩

/-- Only empty lines are not moved by indenting. -/
theorem indentLine_eq_self_iff {width : Nat} (hwidth : 0 < width) :
    indentLine width line = line ↔ line = "" := by
  by_cases hline : line = ""
  · rw [hline, indentLine_empty]
  · refine iff_of_false (fun hsame => ?_) hline
    have hlength := congrArg String.length hsame
    rw [indentLine_of_ne hline, String.length_append, String.length_ofList,
      List.length_replicate] at hlength
    omega

/-! ## Lines of pieces -/

namespace Piece

variable {piece : Piece} {width : Nat}

/-- The lines of a piece in the text. -/
def lines (width : Nat) (piece : Piece) : List String := (piece.printed width).flatMap Text.lines

/-- The lines of a piece as they stand if all of them are moved to its level. -/
def laid (width : Nat) (piece : Piece) : List String :=
  (Text.lines piece.text).map (indentLine (width * piece.level))

/-- What is cut into lines is moved as a whole, and so is what has one line only. -/
theorem lines_eq_laid (h : piece.role = .assertion ∨ piece.role = .replacement ∨ IsOneLine piece.text) :
    piece.lines width = piece.laid width := by
  have hportions : piece.portions = Text.lines piece.text := by
    unfold portions
    split
    · rfl
    · rfl
    · next hassertion hreplacement =>
        rcases h with h | h | h
        · exact absurd h hassertion
        · exact absurd h hreplacement
        · exact h.lines.symm
  have hlines : ∀ line ∈ Text.lines piece.text,
      Text.lines (indentLine (width * piece.level) line) = [indentLine (width * piece.level) line] :=
    fun line hline =>
      (isOneLine_indentLine (Text.newline_not_mem_of_mem_lines hline) _).lines
  rw [lines, printed, hportions, laid, List.flatMap_map, List.map_eq_flatMap]
  exact List.flatMap_congr hlines

/-- The further lines of an identity are not moved. -/
theorem lines_of_identity (h : piece.role = .identity) (hflush : IsFlush piece.text) {first : String}
    {more : List String} (hlines : Text.lines piece.text = first :: more) :
    piece.lines width = indentLine (width * piece.level) first :: more := by
  obtain ⟨_, _, hfirst, hvisible⟩ := hflush.lines
  obtain ⟨rfl, rfl⟩ := List.cons.inj (hlines.symm.trans hfirst)
  have hportions : piece.portions = [piece.text] := by rw [portions, h]
  rw [lines, printed, hportions, List.map_singleton, List.flatMap_singleton,
    indentLine_of_ne hflush.ne_empty, Text.lines_append (isOneLine_replicate _) hlines,
    indentLine_of_ne hvisible.ne_empty]

end Piece

/-- The text of a transcript has the lines of its pieces. -/
theorem lines_render (s : Style) (limit : DumpLimit) (t : Tree) :
    Text.lines (render s limit t) = (pieces s limit t).flatMap (Piece.lines s.indent) := by
  have hne : Transcript.lines s limit t ≠ [] := List.cons_ne_nil _ _
  rw [render, Text.lines_join_eq_flatMap hne, lines_eq_flatMap, List.flatMap_assoc]
  rfl

/-! ## Tidy styles -/

/-- All that a style says starts with something visible, and has one line if it is not a statement. -/
structure Style.IsTidy (s : Style) : Prop where
  assertions : ∀ n depth, ∀ text ∈ s.assertions n (s.cursorName depth), IsFlush text
  replacement : ∀ parent child depth text,
    s.replacement parent child (s.cursorName depth) = some text → IsFlush text
  identity : ∀ depth access,
    ∀ reference ∈ [s.cursorName (depth + 1), s.cursorName (depth + 1) ++ ".node"],
      IsFlush (s.identity (s.cursorName depth) access reference)
  typeExpression : ∀ n, IsOneLine (s.typeExpression n)
  opening : ∀ n ignoring, IsOneLine (s.opening n ignoring)
  cursorName : ∀ depth, IsFlush (s.cursorName depth) ∧ IsOneLine (s.cursorName depth)

/-- A piece starts with something visible, if it is no gap, and has one line if it is no statement. -/
def Piece.IsTidy (piece : Piece) : Prop :=
  match piece.role with
  | .gap => piece.text = ""
  | .header | .call | .pass => IsFlush piece.text ∧ IsOneLine piece.text
  | .assertion | .replacement | .identity => IsFlush piece.text

variable {s : Style} {limit : DumpLimit} {t : Tree} {piece : Piece} {width : Nat}

theorem Style.IsTidy.isOneLine_arguments (hs : s.IsTidy) (n : Node) (ignoring : Bool) :
    IsOneLine (arguments (s.typeExpression n) ignoring) := by
  refine isOneLine_append.mpr ⟨hs.typeExpression n, ?_⟩
  cases ignoring <;> decide

theorem isFlush_with (rest : String) : IsFlush ("with " ++ rest) :=
  IsFlush.append ⟨'w', _, rfl, by decide, by decide⟩ rest

theorem Style.IsTidy.openingText (hs : s.IsTidy) (root : Node) (ignoring : Bool) :
    IsFlush (openingText s root ignoring) ∧ IsOneLine (openingText s root ignoring) := by
  constructor
  · simp only [Transcript.openingText, String.append_assoc]
    exact isFlush_with _
  · simp only [Transcript.openingText, isOneLine_append, hs.opening, (hs.cursorName _).2, and_true]
    decide

theorem Style.IsTidy.headerText (hs : s.IsTidy) (depth : Nat) (child : Node) (ignoring : Bool) :
    IsFlush (headerText s depth child ignoring) ∧ IsOneLine (headerText s depth child ignoring) := by
  constructor
  · simp only [Transcript.headerText, String.append_assoc]
    exact isFlush_with _
  · simp only [Transcript.headerText, isOneLine_append, hs.isOneLine_arguments, (hs.cursorName _).2,
      and_true]
    decide

theorem Style.IsTidy.callText (hs : s.IsTidy) (depth : Nat) (child : Node) (ignoring bound : Bool) :
    IsFlush (callText s depth child ignoring bound) ∧
      IsOneLine (callText s depth child ignoring bound) := by
  have hflush := fun depth => (hs.cursorName depth).1
  cases bound with
  | true =>
      constructor
      · simp only [Transcript.callText, if_true, String.append_assoc]
        exact (hflush (depth + 1)).append _
      · simp only [Transcript.callText, if_true, isOneLine_append, hs.isOneLine_arguments,
          (hs.cursorName _).2, and_true, true_and]
        decide
  | false =>
      constructor
      · simp only [Transcript.callText, Bool.false_eq_true, if_false, String.empty_append,
          String.append_assoc]
        exact (hflush depth).append _
      · simp only [Transcript.callText, Bool.false_eq_true, if_false, String.empty_append,
          isOneLine_append, hs.isOneLine_arguments, (hs.cursorName _).2, and_true, true_and]
        decide

theorem Style.IsTidy.isTidy_of_says (hs : s.IsTidy) {base : List Nat} (h : Says s limit base t piece) :
    piece.IsTidy := by
  cases h with
  | header hq hu => exact hs.headerText ..
  | call bound hq hu => exact hs.callText ..
  | assertion htext => exact hs.assertions _ _ _ htext
  | replacement i htext => exact hs.replacement _ _ _ _ htext
  | identity i access hreference => exact hs.identity _ access _ hreference
  | gap place i => rfl

theorem Style.IsTidy.isTidy_of_mem (hs : s.IsTidy) (h : piece ∈ pieces s limit t) : piece.IsTidy := by
  rcases mem_pieces_cases h with rfl | rfl | h
  · exact hs.openingText ..
  · exact ⟨⟨'p', _, rfl, by decide, by decide⟩, by decide⟩
  · exact hs.isTidy_of_says h

/-! ## First lines -/

/-- Only identities are not moved as a whole. -/
theorem Piece.IsTidy.lines_eq_laid (h : piece.IsTidy) (hidentity : piece.role ≠ .identity) (width : Nat) :
    piece.lines width = piece.laid width := by
  refine Piece.lines_eq_laid ?_
  unfold IsTidy at h
  split at h
  · exact .inr (.inr (h ▸ by decide))
  · exact .inr (.inr h.2)
  · exact .inr (.inr h.2)
  · exact .inr (.inr h.2)
  · next hrole => exact .inl hrole
  · next hrole => exact .inr (.inl hrole)
  · next hrole => exact absurd hrole hidentity

theorem Piece.IsTidy.isFlush (h : piece.IsTidy) (hgap : piece.role ≠ .gap) : IsFlush piece.text := by
  unfold IsTidy at h
  split at h
  · next hrole => exact absurd hrole hgap
  all_goals first | exact h | exact h.1

/-- Matches are single lines. -/
theorem Piece.IsTidy.of_isMatch (h : piece.IsTidy) (hmatch : piece.isMatch = true) :
    IsFlush piece.text ∧ IsOneLine piece.text := by
  have hrole : piece.role = .header ∨ piece.role = .call := by simpa [isMatch] using hmatch
  unfold IsTidy at h
  rcases hrole with hrole | hrole
  · rwa [hrole] at h
  · rwa [hrole] at h

/-- A piece that is no gap starts at the column of its level. -/
theorem Piece.IsTidy.exists_first (h : piece.IsTidy) (hgap : piece.role ≠ .gap) (width : Nat) :
    ∃ first line more, (Text.lines piece.text).head? = some first ∧ first ≠ "" ∧
      piece.lines width = line :: more ∧ readColumn line = (width * piece.level, first) := by
  obtain ⟨first, more, hlines, hfirst⟩ := (h.isFlush hgap).lines
  have hhead : (Text.lines piece.text).head? = some first := by rw [hlines, List.head?_cons]
  have hread := readColumn_indentLine hfirst (width * piece.level)
  by_cases hidentity : piece.role = .identity
  · exact ⟨first, _, more, hhead, hfirst.ne_empty,
      lines_of_identity hidentity (h.isFlush hgap) hlines, hread⟩
  · refine ⟨first, _, more.map (indentLine (width * piece.level)), hhead, hfirst.ne_empty, ?_, hread⟩
    rw [h.lines_eq_laid hidentity, laid, hlines, List.map_cons]

/-- A gap is an empty line. -/
theorem Piece.IsTidy.lines_of_gap (h : piece.IsTidy) (hgap : piece.role = .gap) (width : Nat) :
    piece.lines width = [""] := by
  obtain ⟨role, place, text⟩ := piece
  obtain rfl : role = .gap := hgap
  obtain rfl : text = "" := h
  rfl

/-! ## Identities -/

/-- Lists that are put together in two ways from as many parts of the same lengths are the same just if all
the parts are. -/
theorem flatMap_eq_flatMap_iff {α β : Type} {f g : α → List β} {xs : List α}
    (h : ∀ x ∈ xs, (f x).length = (g x).length) :
    xs.flatMap f = xs.flatMap g ↔ ∀ x ∈ xs, f x = g x := by
  induction xs with
  | nil => simp
  | cons x xs ih =>
      obtain ⟨hx, hxs⟩ := List.forall_mem_cons.mp h
      rw [List.flatMap_cons, List.flatMap_cons, List.forall_mem_cons, ← ih hxs]
      exact ⟨fun heq => List.append_inj heq hx, fun ⟨hfirst, hrest⟩ => by rw [hfirst, hrest]⟩

/-- An identity stands in the block of a parent. -/
theorem level_pos_of_identity (h : piece ∈ pieces s limit t) (hrole : piece.role = .identity) :
    0 < piece.level := by
  rcases List.mem_cons.mp h with rfl | h
  · cases hrole
  · unfold orPass at h
    split at h
    · rw [List.mem_singleton.mp h] at hrole
      cases hrole
    · cases says_of_mem_piecesIn h with
      | identity i access hreference =>
          rw [Piece.level, List.length_append]
          exact Nat.succ_pos _
      | _ => cases hrole

/-- The further lines of an identity are moved along just if they are empty. -/
theorem Piece.IsTidy.lines_eq_laid_iff (h : piece.IsTidy) (hrole : piece.role = .identity)
    (hposition : 0 < width * piece.level) : piece.lines width = piece.laid width ↔
      ∀ line ∈ (Text.lines piece.text).tail, line = "" := by
  have hflush : IsFlush piece.text := h.isFlush (by rw [hrole]; decide)
  obtain ⟨first, more, hlines, -⟩ := hflush.lines
  rw [lines_of_identity hrole hflush hlines, laid, hlines, List.map_cons, List.cons_inj_right,
    List.tail_cons, eq_comm]
  calc more.map (indentLine (width * piece.level)) = more
      ↔ more.map (indentLine (width * piece.level)) = more.map id := by rw [List.map_id]
    _ ↔ ∀ line ∈ more, indentLine (width * piece.level) line = line := List.map_eq_map_iff
    _ ↔ ∀ line ∈ more, line = "" := forall₂_congr fun line _ => indentLine_eq_self_iff hposition

/-- Where identities are asserted on several lines, the further lines are not moved along. -/
theorem hangs_iff (hs : s.IsTidy) (hwidth : 0 < s.indent) (limit : DumpLimit) (t : Tree) :
    Text.lines (render s limit t) = (pieces s limit t).flatMap (Piece.laid s.indent) ↔
      ∀ piece ∈ pieces s limit t, piece.role = .identity →
        ∀ line ∈ (Text.lines piece.text).tail, line = "" := by
  have hlength : ∀ piece ∈ pieces s limit t,
      (piece.lines s.indent).length = (piece.laid s.indent).length := by
    intro piece hpiece
    have htidy := hs.isTidy_of_mem hpiece
    by_cases hrole : piece.role = .identity
    · have hflush : IsFlush piece.text := htidy.isFlush (by rw [hrole]; decide)
      obtain ⟨first, more, hlines, -⟩ := hflush.lines
      rw [Piece.lines_of_identity hrole hflush hlines, Piece.laid, hlines, List.length_map,
        List.length_cons, List.length_cons]
    · rw [htidy.lines_eq_laid hrole]
  rw [lines_render, flatMap_eq_flatMap_iff hlength]
  refine forall₂_congr fun piece hpiece => ?_
  have htidy := hs.isTidy_of_mem hpiece
  by_cases hrole : piece.role = .identity
  · rw [htidy.lines_eq_laid_iff hrole (Nat.mul_pos hwidth (level_pos_of_identity hpiece hrole))]
    exact (imp_iff_right hrole).symm
  · exact iff_of_true (htidy.lines_eq_laid hrole s.indent) fun h => absurd h hrole

end Transcript

end TreeShape
