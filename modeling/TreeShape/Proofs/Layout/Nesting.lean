import TreeShape.Proofs.Layout.Columns
import TreeShape.Proofs.Outlines.Pictures
import TreeShape.Proofs.Replay.Exactness

/-!
# Nesting of transcripts

A transcript is nested like the tree.  Behind the header of a block comes a line that is one level
deeper, and the matches, read by their columns, make the picture of the tree without what is replaced.

## Strategy

Both facts are shown of the pieces first, where levels are numbers, and brought to the lines of the text
by `Piece.IsTidy.exists_first`, which finds the level of a piece in the column of its first line.

* **Headers.**  A child has a header only if its block is not empty, and then the first piece of the
  block that is no gap stands one level deeper: `leads_piecesIn`.  `Followed` says this of all headers
  of a list of pieces, and so it can be shown list by list, along the recursion of the printer.
* **Matches.**  Read with their levels, the matches in a block are the entries of a picture,
  `matchEntries_piecesIn`.  A picture can be read off its entries again, since the entries below a node
  are those up to the next one that is not deeper: `ofEntries_matches`.
-/

namespace TreeShape.Transcript

open Outline (Picture)

variable {s : Style} {limit : DumpLimit} {t : Tree} {piece : Piece}

/-! ## Headers -/

/-- The first piece that is no gap stands at a level. -/
def Leads (level : Nat) (pieces : List Piece) : Prop :=
  ∃ piece, pieces.find? (·.role != .gap) = some piece ∧ piece.level = level

theorem Leads.append {level : Nat} {xs : List Piece} (h : Leads level xs) (ys : List Piece) :
    Leads level (xs ++ ys) := by
  obtain ⟨piece, hpiece, hlevel⟩ := h
  exact ⟨piece, by rw [List.find?_append, hpiece, Option.some_or], hlevel⟩

theorem leads_cons {level : Nat} (hgap : (piece.role != .gap) = true) (hlevel : piece.level = level)
    (more : List Piece) : Leads level (piece :: more) :=
  ⟨piece, by rw [List.find?_cons, hgap], hlevel⟩

theorem leads_gapPieces_append {level : Nat} {xs : List Piece} (h : Leads level xs) (asserted : Bool)
    (position : Nat) (holder : Option String) (place : List Nat) :
    Leads level (gapPieces asserted position holder place ++ xs) := by
  obtain ⟨piece, hpiece, hlevel⟩ := h
  have hnone : (gapPieces asserted position holder place).find? (·.role != .gap) = none := by
    rw [List.find?_eq_none]
    intro gap hgap
    obtain ⟨text, -, rfl⟩ := List.mem_map.mp hgap
    simp
  exact ⟨piece, by rw [List.find?_append, hnone, Option.none_or, hpiece], hlevel⟩

/-- The block of a child starts one level below the child. -/
theorem leads_childPieces (s : Style) (depth : Nat) (place : List Nat) (child : Node) (ignoring : Bool)
    (holder : Option String) (inside : List Piece) :
    Leads place.length (childPieces s depth place child ignoring holder inside) := by
  unfold childPieces
  split <;> exact leads_cons rfl rfl _

/-- The statements for children, if there are any, start one level below the parent. -/
theorem leads_piecesOf (s : Style) (limit : DumpLimit) (place : List Nat) (parent : Node)
    (holders : List (Int × String)) (asserted : Bool) (position : Nat) {ts : List Tree} (hts : ts ≠ []) :
    Leads (place.length + 1) (piecesOf s limit place parent holders asserted position ts) := by
  obtain ⟨t, ts, rfl⟩ := List.exists_cons_of_ne_nil hts
  have hlevel : (place ++ [position]).length = place.length + 1 := List.length_append
  rw [piecesOf]
  split
  · refine leads_gapPieces_append (leads_cons rfl ?_ _) ..
    exact hlevel
  · rw [List.append_assoc, ← hlevel]
    exact leads_gapPieces_append ((leads_childPieces ..).append _) ..

/-- The block of a node, if there is anything in it, starts one level below the node. -/
theorem leads_piecesIn {place : List Nat} (hne : piecesIn s limit place t ≠ []) :
    Leads (place.length + 1) (piecesIn s limit place t) := by
  obtain ⟨n, ts⟩ := t
  rw [piecesIn] at hne ⊢
  cases hassertions : s.assertions n (s.cursorName place.length) with
  | cons text more => exact leads_cons rfl rfl _
  | nil =>
      rw [hassertions] at hne
      cases hlimit : limit.isExhausted with
      | true => exact absurd (by rw [hlimit]; rfl) hne
      | false =>
          rw [hlimit] at hne
          refine leads_piecesOf s limit place n _ _ 0 fun hnil => hne ?_
          rw [hnil]
          rfl

/-- Behind every header, the block starts one level deeper. -/
def Followed (pieces : List Piece) : Prop :=
  ∀ before header behind, pieces = before ++ header :: behind → header.role = .header →
    Leads (header.level + 1) behind

theorem followed_of_ne_header {pieces : List Piece} (h : ∀ piece ∈ pieces, piece.role ≠ .header) :
    Followed pieces := by
  rintro before header behind rfl hheader
  exact absurd hheader (h header (List.mem_append_right before List.mem_cons_self))

theorem Followed.append {xs ys : List Piece} (hxs : Followed xs) (hys : Followed ys) :
    Followed (xs ++ ys) := by
  intro before header behind heq hheader
  rcases List.append_eq_append_iff.mp heq with ⟨more, rfl, rfl⟩ | ⟨more, rfl, hmore⟩
  · exact hys more header behind rfl hheader
  · cases more with
    | nil => exact hys [] header behind hmore.symm hheader
    | cons first more =>
        obtain ⟨rfl, rfl⟩ := List.cons.inj hmore
        exact (hxs before header more rfl hheader).append ys

theorem Followed.cons {pieces : List Piece} (h : Followed pieces)
    (hleads : piece.role = .header → Leads (piece.level + 1) pieces) : Followed (piece :: pieces) := by
  intro before header behind heq hheader
  cases before with
  | nil =>
      obtain ⟨rfl, rfl⟩ := List.cons.inj heq
      exact hleads hheader
  | cons first before =>
      obtain ⟨rfl, rfl⟩ := List.cons.inj heq
      exact h before header behind rfl hheader

theorem followed_map {role : Role} (hrole : role ≠ .header) (place : List Nat) (texts : List String) :
    Followed (texts.map (⟨role, place, ·⟩)) := by
  refine followed_of_ne_header fun piece hpiece => ?_
  obtain ⟨text, -, rfl⟩ := List.mem_map.mp hpiece
  exact hrole

theorem followed_childPieces (s : Style) (place : List Nat) (position : Nat) (child : Node)
    (ignoring : Bool) (holder : Option String) {inside : List Piece} (hinside : Followed inside)
    (hleads : inside ≠ [] → Leads ((place ++ [position]).length + 1) inside) :
    Followed (childPieces s place.length (place ++ [position]) child ignoring holder inside) := by
  by_cases hnil : inside = []
  · rw [hnil, childPieces]
    exact Followed.cons (followed_map (by decide) _ _) (fun hcall => Role.noConfusion hcall)
  · rw [childPieces_of_ne_nil s _ _ _ _ _ hnil]
    exact Followed.cons (hinside.append (followed_map (by decide) _ _)) fun _ => (hleads hnil).append _

mutual

theorem followed_piecesIn (s : Style) (limit : DumpLimit) (place : List Nat) (t : Tree) :
    Followed (piecesIn s limit place t) := by
  obtain ⟨n, ts⟩ := t
  rw [piecesIn]
  refine Followed.append (followed_map (by decide) _ _) ?_
  split
  · exact followed_of_ne_header (by simp)
  · exact followed_piecesOf s limit place n _ _ 0 ts

theorem followed_piecesOf (s : Style) (limit : DumpLimit) (place : List Nat) (parent : Node)
    (holders : List (Int × String)) (asserted : Bool) (position : Nat) (ts : List Tree) :
    Followed (piecesOf s limit place parent holders asserted position ts) := by
  cases ts with
  | nil => exact followed_of_ne_header (by simp [piecesOf])
  | cons t ts =>
      have hrest := followed_piecesOf s limit place parent holders asserted (position + 1) ts
      rw [piecesOf]
      split
      · exact Followed.append (followed_map (by decide) _ _)
          (hrest.cons fun hreplacement => Role.noConfusion hreplacement)
      · have hinside := followed_piecesIn s limit.below (place ++ [position]) t
        have hchild := followed_childPieces s place position t.root limit.below.isExhausted
          (holders.lookup (position : Int)) hinside leads_piecesIn
        exact (Followed.append (followed_map (by decide) _ _) hchild).append hrest

end

/-- Behind every header of a transcript, the block starts one level deeper. -/
theorem followed_pieces (s : Style) (limit : DumpLimit) (t : Tree) : Followed (pieces s limit t) := by
  by_cases hnil : piecesIn s limit [] t = []
  · rw [pieces, hnil, orPass]
    exact (followed_of_ne_header (by simp)).cons fun _ => leads_cons rfl rfl []
  · rw [pieces, orPass_of_ne_nil hnil]
    exact (followed_piecesIn s limit [] t).cons fun _ => leads_piecesIn hnil

/-- The first line that is not empty starts at the column of the level. -/
theorem Leads.exists_line {level : Nat} {pieces : List Piece} (h : Leads level pieces)
    (htidy : ∀ piece ∈ pieces, piece.IsTidy) (width : Nat) :
    ∃ empty line more, pieces.flatMap (Piece.lines width) = empty ++ line :: more ∧
      (∀ l ∈ empty, l = "") ∧ (readColumn line).1 = width * level ∧ (readColumn line).2 ≠ "" := by
  obtain ⟨piece, hfind, rfl⟩ := h
  obtain ⟨hgap, gaps, rest, rfl, hgaps⟩ := List.find?_eq_some_iff_append.mp hfind
  rw [List.forall_mem_append, List.forall_mem_cons] at htidy
  obtain ⟨first, line, more, -, hne, hlines, hread⟩ :=
    htidy.2.1.exists_first (bne_iff_ne.mp hgap) width
  refine ⟨gaps.flatMap (Piece.lines width), line, more ++ rest.flatMap (Piece.lines width),
    ?_, ?_, ?_, ?_⟩
  · rw [List.flatMap_append, List.flatMap_cons, hlines, List.cons_append]
  · intro l hl
    obtain ⟨gap, hmem, hl⟩ := List.mem_flatMap.mp hl
    have hrole : gap.role = .gap := by simpa using hgaps gap hmem
    rw [(htidy.1 gap hmem).lines_of_gap hrole] at hl
    exact List.mem_singleton.mp hl
  · rw [hread]
  · rw [hread]
    exact hne

/-! ## Matches -/

mutual

/-- The pictures of the matches in the block of the node at a place.  What is replaced is not matched, nor
is what lies below it. -/
def matchedIn (s : Style) (limit : DumpLimit) (place : List Nat) : Tree → List Picture
  | .branch n ts => if limit.isExhausted then [] else matchedOf s limit place n (s.holders n) 0 ts

def matchedOf (s : Style) (limit : DumpLimit) (place : List Nat) (parent : Node)
    (holders : List (Int × String)) (position : Nat) : List Tree → List Picture
  | [] => []
  | t :: ts =>
    let rest := matchedOf s limit place parent holders (position + 1) ts
    let here := place ++ [position]
    match s.replacement parent t.root (s.cursorName place.length) with
    | some _ => rest
    | none =>
      let piece := matchPiece s place.length here t.root limit.below.isExhausted
        (holders.lookup (position : Int)) (piecesIn s limit.below here t)
      .node piece.text (matchedIn s limit.below here t) :: rest

end

/-- The picture of the matches of a tree. -/
def matched (s : Style) (limit : DumpLimit) (t : Tree) : Picture :=
  .node (openingText s t.root limit.isExhausted) (matchedIn s limit [] t)

def Piece.entry (piece : Piece) : Nat × String := (piece.level, piece.text)

/-- The levels and texts of the matches among pieces. -/
def matchEntries (pieces : List Piece) : List (Nat × String) :=
  (pieces.filter Piece.isMatch).map Piece.entry

@[simp] theorem matchEntries_append (xs ys : List Piece) :
    matchEntries (xs ++ ys) = matchEntries xs ++ matchEntries ys := by
  rw [matchEntries, List.filter_append, List.map_append, ← matchEntries, ← matchEntries]

theorem matchEntries_map {role : Role} (hrole : role ≠ .header ∧ role ≠ .call) (place : List Nat)
    (texts : List String) : matchEntries (texts.map (⟨role, place, ·⟩)) = [] := by
  rw [matchEntries, filter_isMatch_map hrole, List.map_nil]

theorem matchEntries_childPieces (s : Style) (depth : Nat) (place : List Nat) (child : Node)
    (ignoring : Bool) (holder : Option String) (inside : List Piece) :
    matchEntries (childPieces s depth place child ignoring holder inside) =
      (place.length, (matchPiece s depth place child ignoring holder inside).text) ::
        matchEntries inside := by
  have hentry : (matchPiece s depth place child ignoring holder inside).entry =
      (place.length, (matchPiece s depth place child ignoring holder inside).text) := by
    unfold matchPiece
    split <;> rfl
  rw [matchEntries, filter_isMatch_childPieces, List.map_cons, hentry, ← matchEntries]

mutual

/-- The matches in a block are those of its picture. -/
theorem matchEntries_piecesIn (s : Style) (limit : DumpLimit) (place : List Nat) (t : Tree) :
    matchEntries (piecesIn s limit place t) =
      Picture.entriesOfAll (place.length + 1) (matchedIn s limit place t) := by
  obtain ⟨n, ts⟩ := t
  rw [piecesIn, matchedIn, matchEntries_append, matchEntries_map (by decide), List.nil_append]
  split
  · rfl
  · exact matchEntries_piecesOf s limit place n _ _ 0 ts

theorem matchEntries_piecesOf (s : Style) (limit : DumpLimit) (place : List Nat) (parent : Node)
    (holders : List (Int × String)) (asserted : Bool) (position : Nat) (ts : List Tree) :
    matchEntries (piecesOf s limit place parent holders asserted position ts) =
      Picture.entriesOfAll (place.length + 1) (matchedOf s limit place parent holders position ts) := by
  cases ts with
  | nil => rfl
  | cons t ts =>
      have hrest := matchEntries_piecesOf s limit place parent holders asserted (position + 1) ts
      have hlevel : (place ++ [position]).length = place.length + 1 := List.length_append
      have hcons : ∀ (text : String) (more : List Piece), matchEntries
          (⟨.replacement, place ++ [position], text⟩ :: more) = matchEntries more := fun _ _ => rfl
      rw [piecesOf, matchedOf]
      cases s.replacement parent t.root (s.cursorName place.length) with
      | some text =>
          simp only [gapPieces, matchEntries_append, @matchEntries_map .gap (by decide),
            List.nil_append, hcons, hrest]
      | none =>
          have hinside := matchEntries_piecesIn s limit.below (place ++ [position]) t
          simp only [gapPieces, matchEntries_append, @matchEntries_map .gap (by decide),
            List.nil_append, matchEntries_childPieces, hinside, hrest, hlevel, Picture.entriesOfAll,
            Picture.entries, List.cons_append]

end

/-- The matches of a transcript are those of its picture. -/
theorem matchEntries_pieces (s : Style) (limit : DumpLimit) (t : Tree) :
    matchEntries (pieces s limit t) = (matched s limit t).entries 0 := by
  have hbody : matchEntries (orPass (piecesIn s limit [] t)) = matchEntries (piecesIn s limit [] t) := by
    rw [matchEntries, filter_isMatch_orPass, ← matchEntries]
  calc matchEntries (pieces s limit t)
      = (0, openingText s t.root limit.isExhausted) :: matchEntries (orPass (piecesIn s limit [] t)) := rfl
    _ = (matched s limit t).entries 0 := by
        rw [hbody, matchEntries_piecesIn, matched, Picture.entries]
        rfl

/-- The lines of matches are read at the columns of their levels. -/
theorem map_readColumn_matches {pieces : List Piece} (htidy : ∀ piece ∈ pieces, piece.IsTidy)
    (width : Nat) : ((pieces.filter Piece.isMatch).flatMap (Piece.lines width)).map readColumn =
      (matchEntries pieces).map fun e => (width * e.1, e.2) := by
  have hpiece : ∀ piece ∈ pieces.filter Piece.isMatch,
      (piece.lines width).map readColumn = [(width * piece.level, piece.text)] := by
    intro piece hmem
    obtain ⟨hmem, hmatch⟩ := List.mem_filter.mp hmem
    obtain ⟨hflush, hone⟩ := (htidy piece hmem).of_isMatch hmatch
    rw [Piece.lines_eq_laid (.inr (.inr hone)), Piece.laid, hone.lines, List.map_singleton,
      List.map_singleton, readColumn_indentLine hflush]
  rw [List.map_flatMap, matchEntries, List.map_map, List.map_eq_flatMap]
  exact List.flatMap_congr hpiece

/-- Read by their columns, the matches of a transcript are nested like the nodes. -/
theorem ofEntries_matches (hs : s.IsTidy) (hwidth : 0 < s.indent) (limit : DumpLimit) (t : Tree) :
    Picture.ofEntries ((((pieces s limit t).filter Piece.isMatch).flatMap
      (Piece.lines s.indent)).map readColumn) = [(0, matched s limit t)] := by
  have htidy : ∀ piece ∈ pieces s limit t, piece.IsTidy := fun piece hpiece => hs.isTidy_of_mem hpiece
  rw [map_readColumn_matches htidy, matchEntries_pieces,
    Picture.ofEntries_map (fun {i j} => Nat.mul_lt_mul_left hwidth), Picture.ofEntries_entries_zero]
  rfl

/-! ## Transcripts of finite trees -/

/-- The text is laid out like the tree. -/
structure Nested (s : Style) (limit : DumpLimit) (t : Tree) (text : String) : Prop where
  /-- The lines are those of the pieces, one piece after the other. -/
  lines : Text.lines text = (pieces s limit t).flatMap (Piece.lines s.indent)
  /-- Unless it is an identity, all of a piece is moved to the column of its level. -/
  moved : ∀ piece ∈ pieces s limit t, piece.role ≠ .identity →
    piece.lines s.indent = piece.laid s.indent
  /-- Of an identity, only the first line is moved there. -/
  hanging : ∀ piece ∈ pieces s limit t, piece.role = .identity → ∃ first more,
    Text.lines piece.text = first :: more ∧
    piece.lines s.indent = indentLine (s.indent * piece.level) first :: more
  /-- So everything stands at its column just if identities have no further lines that are not empty. -/
  laid_iff : Text.lines text = (pieces s limit t).flatMap (Piece.laid s.indent) ↔
    ∀ piece ∈ pieces s limit t, piece.role = .identity →
      ∀ line ∈ (Text.lines piece.text).tail, line = ""
  /-- Behind a header comes a line that is exactly one level deeper, after empty lines at most. -/
  followed : ∀ before header behind, pieces s limit t = before ++ header :: behind →
    header.role = .header → ∃ empty line more,
      behind.flatMap (Piece.lines s.indent) = empty ++ line :: more ∧ (∀ l ∈ empty, l = "") ∧
      (readColumn line).1 = s.indent * (header.level + 1) ∧ (readColumn line).2 ≠ ""
  /-- A piece that is no gap starts at the column of its level. -/
  starts : ∀ piece ∈ pieces s limit t, piece.role ≠ .gap → ∃ first line more,
    (Text.lines piece.text).head? = some first ∧ first ≠ "" ∧
    piece.lines s.indent = line :: more ∧ readColumn line = (s.indent * piece.level, first)
  /-- The matches, read by their columns, are nested like the nodes that they match, which are those of the
  tree but for what is replaced. -/
  matches_nested : Picture.ofEntries
      ((((pieces s limit t).filter Piece.isMatch).flatMap (Piece.lines s.indent)).map readColumn) =
    [(0, matched s limit t)]

/-- What a tidy style renders is laid out like the tree. -/
theorem nested_render (hs : s.IsTidy) (hwidth : 0 < s.indent) (limit : DumpLimit) (t : Tree) :
    Nested s limit t (render s limit t) := by
  have htidy : ∀ piece ∈ pieces s limit t, piece.IsTidy := fun piece h => hs.isTidy_of_mem h
  refine ⟨lines_render .., ?moved, ?hanging, hangs_iff hs hwidth limit t, ?followed, ?starts,
    ofEntries_matches hs hwidth limit t⟩
  case moved => exact fun piece hpiece hrole => (htidy piece hpiece).lines_eq_laid hrole _
  case hanging =>
    intro piece hpiece hrole
    have hflush : IsFlush piece.text := (htidy piece hpiece).isFlush (by rw [hrole]; decide)
    obtain ⟨first, more, hlines, -⟩ := hflush.lines
    exact ⟨first, more, hlines, Piece.lines_of_identity hrole hflush hlines⟩
  case followed =>
    intro before header behind hpieces hheader
    have hleads := followed_pieces s limit t before header behind hpieces hheader
    refine hleads.exists_line (fun piece hpiece => htidy piece ?_) _
    rw [hpieces]
    exact List.mem_append_right before (List.mem_cons_of_mem header hpiece)
  case starts => exact fun piece hpiece hgap => (htidy piece hpiece).exists_first hgap _

/-- Whatever a tidy style says, the transcript of a finite tree is printed and laid out like the tree.

The height that views give to trees is no restriction for the usual adapters, `Adapter.isBounded_view`. -/
theorem nested_of_tidy {a : Adapter} {w : World} (ha : (a.view w).IsBounded) {t : Tree}
    (ht : t.ShownBy (a.view w)) (style : World → Style) (hs : (style w).IsTidy)
    (hindent : 0 < (style w).indent) (serial : Nat) {limit : DumpLimit}
    (hrefusal : ∀ n, t.Shown limit n → (style w).refusal n = none) :
    ∃ text, (Printer.transcript serial a style).render w t.root limit = .ok text ∧
      Nested (style w) limit t text :=
  ⟨_, ht.render_style (ha t ht) hrefusal serial, nested_render hs hindent limit t⟩

/-! ## A style of many lines -/

theorem isFlush_plainCursorName (depth : Nat) : IsFlush (plainCursorName depth) := by
  have hit : IsFlush "it" := ⟨'i', ['t'], rfl, by decide, by decide⟩
  unfold plainCursorName
  split
  · exact hit
  · exact hit.append _

theorem isOneLine_plainCursorName (depth : Nat) : IsOneLine (plainCursorName depth) := by
  unfold plainCursorName
  split
  · decide
  · exact isOneLine_append.mpr ⟨by decide, Text.newline_not_mem_toString depth⟩

/-- Asserts something of every node on two lines and that the left child of a pair is held on three, and
skips the right one. -/
def wordy : Style where
  indent := 4
  refusal _ := none
  assertions _ cursor := ["if " ++ cursor ++ ".node:\n    pass"]
  holders _ := [(0, "left")]
  replacement _ child cursor := if child = Sample.right then some (cursor ++ ".skip_child()") else none
  identity cursor access child :=
    "assert (\n    " ++ cursor ++ ".node." ++ access ++ " is " ++ child ++ "\n)"
  typeExpression n := if n = Sample.root then "Pair" else "Leaf"
  opening n onlyRoot := plainOpening "match_node" (if n = Sample.root then "Pair" else "Leaf") "" onlyRoot
  cursorName := plainCursorName

theorem isTidy_wordy : wordy.IsTidy where
  assertions n depth text htext := by
    have hif : IsFlush "if " := ⟨'i', _, rfl, by decide, by decide⟩
    rw [List.mem_singleton.mp htext]
    exact (hif.append _).append _
  replacement parent child depth text htext := by
    unfold wordy at htext
    dsimp only at htext
    split at htext
    · rw [← Option.some.inj htext]
      exact (isFlush_plainCursorName depth).append _
    · cases htext
  identity depth access reference _ := by
    have hassert : IsFlush "assert (\n    " := ⟨'a', _, rfl, by decide, by decide⟩
    exact (((((hassert.append _).append _).append _).append _).append _).append _
  typeExpression n := by
    unfold wordy
    dsimp only
    split <;> decide
  opening n ignoring := by
    unfold wordy
    dsimp only
    split <;> cases ignoring <;> decide
  cursorName depth := ⟨isFlush_plainCursorName depth, isOneLine_plainCursorName depth⟩

/-- The lines of assertions are all moved to their columns, those of the identity are not. -/
theorem nested_of_tidy_wordy :
    (Sample.adapter.view Sample.world).IsBounded ∧
    Tree.sample.ShownBy (Sample.adapter.view Sample.world) ∧ wordy.IsTidy ∧ 0 < wordy.indent ∧
    (∀ n, Tree.sample.Shown none n → wordy.refusal n = none) ∧
    ∃ text, (Printer.transcript 0 Sample.adapter fun _ => wordy).render Sample.world Sample.root none =
        .ok text ∧
      Text.lines text = ["with match_node(node, Pair) as it:", "    if it.node:", "        pass", "",
        "    with it.child_block(Leaf) as it1:", "        if it1.node:", "            pass",
        "    assert (", "    it.node.left is it1.node", ")", "    it.skip_child()"] := by
  have hbounded := Adapter.isBounded_view (.downward "sample" {}) Sample.world
  have hrefusal : ∀ n, Tree.sample.Shown none n → wordy.refusal n = none := fun _ _ => rfl
  refine ⟨hbounded, Tree.shownBy_sample, isTidy_wordy, by decide, hrefusal, ?_⟩
  obtain ⟨text, hrender, hnested⟩ := nested_of_tidy hbounded Tree.shownBy_sample (fun _ => wordy)
    isTidy_wordy (by decide) 0 hrefusal
  exact ⟨text, hrender, hnested.lines.trans (by decide)⟩

/-- The further lines of the identity do not stand at the column of its level. -/
theorem identity_hangs :
    wordy.IsTidy ∧ Tree.sample.ShownBy (Sample.adapter.view Sample.world) ∧
    ∃ text, (Printer.transcript 0 Sample.adapter fun _ => wordy).render Sample.world Sample.root none =
        .ok text ∧
      (⟨.identity, [0], "assert (\n    it.node.left is it1.node\n)"⟩ : Piece) ∈
        pieces wordy none Tree.sample ∧
      Text.lines text ≠ (pieces wordy none Tree.sample).flatMap (Piece.laid 4) := by
  have hbounded := Adapter.isBounded_view (.downward "sample" {}) Sample.world
  have hwithin := hbounded Tree.sample Tree.shownBy_sample
  have hmem : (⟨.identity, [0], "assert (\n    it.node.left is it1.node\n)"⟩ : Piece) ∈
      pieces wordy none Tree.sample := by decide
  refine ⟨isTidy_wordy, Tree.shownBy_sample, render wordy none Tree.sample,
    Tree.shownBy_sample.render_style hwithin (fun _ _ => rfl) 0, hmem, fun hlaid => ?_⟩
  have hempty := (hangs_iff isTidy_wordy (by decide) none Tree.sample).mp hlaid _ hmem rfl
    "    it.node.left is it1.node" (by decide)
  exact absurd hempty (by decide)

end TreeShape.Transcript
