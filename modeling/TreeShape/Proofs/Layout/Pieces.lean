import TreeShape.Proofs.Places

/-!
# Pieces of transcripts

A transcript is put together from pieces.  Each belongs to a place of the tree: it matches the node
there, or asserts something of it, or stands in place of its match.  A piece knows how many blocks it
stands in, and is indented by as many levels when it is printed.

The transcript itself indents the statements of a block once for every block around it.  Both ways of
indenting come to the same, `lines_eq_flatMap`.  The induction follows the printer through the tree and
needs two facts of indenting: a line that is indented twice is indented by both widths, and an empty
line never is.  What is cut into lines before it is indented and what is not has to be told apart on the
way, as only the first line of the latter is moved.
-/

namespace TreeShape.Transcript

/-! ## Pieces -/

/-- What a piece of a transcript does. -/
inductive Role where
  /-- Matches a node and opens its block. -/
  | header
  /-- Matches a node without a block. -/
  | call
  /-- Asserts something of a node at the start of its block. -/
  | assertion
  /-- Stands in place of the match of a node. -/
  | replacement
  /-- Asserts that an attribute of the parent is the node. -/
  | identity
  /-- Is the empty line in front of a node. -/
  | gap
  /-- Fills the empty block of the root. -/
  | pass
  deriving DecidableEq, Repr

/-- A piece of a transcript. -/
structure Piece where
  role : Role
  /-- The place of the node that the piece is about. -/
  place : List Nat
  text : String
  deriving DecidableEq, Repr

namespace Piece

/-- The number of blocks around a piece. -/
def level (piece : Piece) : Nat :=
  match piece.role with
  | .assertion | .pass => piece.place.length + 1
  | _ => piece.place.length

def isMatch (piece : Piece) : Bool := piece.role == .header || piece.role == .call

/-- What is indented on its own.  Assertions and replacements are cut into lines before they are indented,
all other texts are not. -/
def portions (piece : Piece) : List String :=
  match piece.role with
  | .assertion | .replacement => Text.lines piece.text
  | _ => [piece.text]

/-- A piece as it is printed, with a number of spaces for each level. -/
def printed (width : Nat) (piece : Piece) : List String :=
  piece.portions.map (indentLine (width * piece.level))

end Piece

/-- The text that opens the block of the root. -/
def openingText (s : Style) (root : Node) (ignoring : Bool) : String :=
  "with " ++ s.opening root ignoring ++ " as " ++ s.cursorName 0 ++ ":"

/-- The text that opens the block of a child. -/
def headerText (s : Style) (depth : Nat) (child : Node) (ignoring : Bool) : String :=
  "with " ++ s.cursorName depth ++ ".child_block(" ++ arguments (s.typeExpression child) ignoring
    ++ ") as " ++ s.cursorName (depth + 1) ++ ":"

/-- The text that matches a child without a block, and may bind it to the name of a cursor. -/
def callText (s : Style) (depth : Nat) (child : Node) (ignoring bound : Bool) : String :=
  (if bound then s.cursorName (depth + 1) ++ " = " else "") ++ s.cursorName depth ++ ".child("
    ++ arguments (s.typeExpression child) ignoring ++ ")"

/-- The statement that the attribute of the parent that holds a child is what a reference to the child
gives. -/
def heldTexts (s : Style) (depth : Nat) (reference : String) (holder : Option String) : List String :=
  (holder.map fun access => s.identity (s.cursorName depth) access reference).toList

/-- The pieces for a child whose block has the given ones. -/
def childPieces (s : Style) (depth : Nat) (place : List Nat) (child : Node) (ignoring : Bool)
    (holder : Option String) (inside : List Piece) : List Piece :=
  match inside with
  | [] =>
    ⟨.call, place, callText s depth child ignoring holder.isSome⟩ ::
      (heldTexts s depth (s.cursorName (depth + 1)) holder).map (⟨.identity, place, ·⟩)
  | inside =>
    ⟨.header, place, headerText s depth child ignoring⟩ ::
      (inside ++ (heldTexts s depth (s.cursorName (depth + 1) ++ ".node") holder).map
        (⟨.identity, place, ·⟩))

/-- The gap in front of a node. -/
def gapPieces (asserted : Bool) (position : Nat) (holder : Option String) (place : List Nat) :
    List Piece :=
  (gap asserted position holder).map fun text => ⟨.gap, place, text⟩

mutual

/-- The pieces in the block of the node at a place. -/
def piecesIn (s : Style) (limit : DumpLimit) (place : List Nat) : Tree → List Piece
  | .branch n ts =>
    let assertions := s.assertions n (s.cursorName place.length)
    assertions.map (⟨.assertion, place, ·⟩) ++
      if limit.isExhausted then []
      else piecesOf s limit place n (s.holders n) (!assertions.isEmpty) 0 ts

/-- The pieces for the children of the node at a place, from a position on. -/
def piecesOf (s : Style) (limit : DumpLimit) (place : List Nat) (parent : Node)
    (holders : List (Int × String)) (asserted : Bool) (position : Nat) : List Tree → List Piece
  | [] => []
  | t :: ts =>
    let rest := piecesOf s limit place parent holders asserted (position + 1) ts
    let here := place ++ [position]
    match s.replacement parent t.root (s.cursorName place.length) with
    | some text => gapPieces asserted position none here ++ ⟨.replacement, here, text⟩ :: rest
    | none =>
      let holder := holders.lookup (position : Int)
      gapPieces asserted position holder here
        ++ childPieces s place.length here t.root limit.below.isExhausted holder
          (piecesIn s limit.below here t)
        ++ rest

end

/-- What fills the block of the root. -/
def orPass : List Piece → List Piece
  | [] => [⟨.pass, [], "pass"⟩]
  | pieces => pieces

/-- The pieces of the transcript of a tree. -/
def pieces (s : Style) (limit : DumpLimit) (t : Tree) : List Piece :=
  ⟨.header, [], openingText s t.root limit.isExhausted⟩ :: orPass (piecesIn s limit [] t)

/-! ## Indenting -/

variable {s : Style} {limit : DumpLimit}

@[simp] theorem indentLine_zero (line : String) : indentLine 0 line = line := by
  unfold indentLine
  split
  · rfl
  · exact String.empty_append

@[simp] theorem indentLine_empty (width : Nat) : indentLine width "" = "" := rfl

theorem indentLine_of_ne {line : String} (h : line ≠ "") (width : Nat) :
    indentLine width line = String.ofList (List.replicate width ' ') ++ line := by
  rw [indentLine, if_neg (mt String.isEmpty_iff.mp h)]

theorem indentLine_ne {line : String} (h : line ≠ "") (width : Nat) : indentLine width line ≠ "" := by
  rw [indentLine_of_ne h]
  exact fun happend => h (String.append_eq_empty_iff.mp happend).2

/-- A line that is indented twice is indented by both widths. -/
theorem indentLine_indentLine (v w : Nat) (line : String) :
    indentLine v (indentLine w line) = indentLine (v + w) line := by
  by_cases hline : line = ""
  · rw [hline, indentLine_empty, indentLine_empty, indentLine_empty]
  · rw [indentLine_of_ne (indentLine_ne hline w), indentLine_of_ne hline, indentLine_of_ne hline,
      ← String.append_assoc, ← String.ofList_append, List.replicate_append_replicate]

theorem Piece.printed_ne_nil (width : Nat) (piece : Piece) : piece.printed width ≠ [] := by
  unfold printed portions
  split <;> simp [Text.lines_ne_nil]

/-- Nothing is printed only of no pieces. -/
theorem flatMap_printed_eq_nil_iff {width : Nat} {pieces : List Piece} :
    pieces.flatMap (Piece.printed width) = [] ↔ pieces = [] := by
  rw [List.flatMap_eq_nil_iff, List.eq_nil_iff_forall_not_mem]
  exact forall₂_congr fun piece _ => iff_false_intro (piece.printed_ne_nil width)

/-- Lines that are indented once for their own block and then by the level of the block's header are
indented by the level of the block. -/
theorem map_indentLine_map (width level : Nat) (lines : List String) :
    (lines.map (indentLine width)).map (indentLine (width * level)) =
      lines.map (indentLine (width * (level + 1))) := by
  rw [List.map_map]
  refine List.map_congr_left fun line _ => ?_
  rw [Function.comp_apply, indentLine_indentLine, Nat.mul_succ]

/-- Pieces that are not cut into lines, as they are printed at one place. -/
theorem flatMap_printed_map (width : Nat) {role : Role} (hrole : role = .gap ∨ role = .identity)
    (place : List Nat) (texts : List String) :
    (texts.map fun text => (⟨role, place, text⟩ : Piece)).flatMap (Piece.printed width) =
      texts.map (indentLine (width * place.length)) := by
  rw [List.flatMap_map]
  rcases hrole with rfl | rfl <;> exact List.map_eq_flatMap.symm

theorem childLines_of_ne_nil (s : Style) (depth : Nat) (child : Node) (ignoring : Bool)
    (holder : Option String) {body : List String} (hbody : body ≠ []) :
    childLines s depth child ignoring holder body =
      headerText s depth child ignoring :: (body.map (indentLine s.indent) ++
        heldTexts s depth (s.cursorName (depth + 1) ++ ".node") holder) := by
  cases body with
  | nil => exact absurd rfl hbody
  | cons line body => cases holder <;> rfl

theorem childPieces_of_ne_nil (s : Style) (depth : Nat) (place : List Nat) (child : Node)
    (ignoring : Bool) (holder : Option String) {inside : List Piece} (hinside : inside ≠ []) :
    childPieces s depth place child ignoring holder inside =
      ⟨.header, place, headerText s depth child ignoring⟩ ::
        (inside ++ (heldTexts s depth (s.cursorName (depth + 1) ++ ".node") holder).map
          (⟨.identity, place, ·⟩)) := by
  cases inside with
  | nil => exact absurd rfl hinside
  | cons piece inside => rfl

/-- A child is printed at the level of its place, and what is in its block one level deeper. -/
theorem flatMap_printed_childPieces (s : Style) (place : List Nat) (position : Nat) (child : Node)
    (ignoring : Bool) (holder : Option String) {body : List String} {inside : List Piece}
    (hinside : body.map (indentLine (s.indent * (place.length + 2))) =
      inside.flatMap (Piece.printed s.indent)) :
    (childPieces s place.length (place ++ [position]) child ignoring holder inside).flatMap
        (Piece.printed s.indent) =
      (childLines s place.length child ignoring holder body).map
        (indentLine (s.indent * (place.length + 1))) := by
  have hlevel : (place ++ [position]).length = place.length + 1 := List.length_append
  -- The lines are none just if the pieces are none.
  by_cases hnil : inside = []
  · obtain rfl : body = [] := by rwa [hnil, List.flatMap_nil, List.map_eq_nil_iff] at hinside
    subst hnil
    rw [childPieces, List.flatMap_cons, flatMap_printed_map _ (.inr rfl), hlevel]
    cases holder <;>
      simp [childLines, heldTexts, Piece.printed, Piece.portions, Piece.level, callText, hlevel]
  · have hbody : body ≠ [] := by
      rintro rfl
      exact hnil (flatMap_printed_eq_nil_iff.mp hinside.symm)
    rw [childPieces_of_ne_nil s _ _ child ignoring holder hnil,
      childLines_of_ne_nil s _ child ignoring holder hbody, List.flatMap_cons, List.flatMap_append,
      flatMap_printed_map _ (.inr rfl), ← hinside, hlevel, List.map_cons, List.map_append,
      map_indentLine_map]
    simp only [Piece.printed, Piece.portions, Piece.level, hlevel, List.map_cons, List.map_nil,
      List.singleton_append]

mutual

/-- The body of a block is printed one level deeper than the header of the block. -/
theorem map_indentLine_body (s : Style) (limit : DumpLimit) (place : List Nat) (t : Tree) :
    (body s limit place.length t).map (indentLine (s.indent * (place.length + 1))) =
      (piecesIn s limit place t).flatMap (Piece.printed s.indent) := by
  obtain ⟨n, ts⟩ := t
  have hassertions : ((s.assertions n (s.cursorName place.length)).flatMap Text.lines).map
        (indentLine (s.indent * (place.length + 1))) =
      ((s.assertions n (s.cursorName place.length)).map fun text =>
        (⟨.assertion, place, text⟩ : Piece)).flatMap (Piece.printed s.indent) := by
    rw [List.map_flatMap, List.flatMap_map]
    rfl
  rw [body, piecesIn, List.map_append, List.flatMap_append, hassertions]
  congr 1
  cases limit.isExhausted with
  | true => rfl
  | false => exact map_indentLine_children s limit place n _ _ 0 ts

theorem map_indentLine_children (s : Style) (limit : DumpLimit) (place : List Nat) (parent : Node)
    (holders : List (Int × String)) (asserted : Bool) (position : Nat) (ts : List Tree) :
    (children s limit place.length parent holders asserted position ts).map
        (indentLine (s.indent * (place.length + 1))) =
      (piecesOf s limit place parent holders asserted position ts).flatMap
        (Piece.printed s.indent) := by
  cases ts with
  | nil => rfl
  | cons t ts =>
      have hrest := map_indentLine_children s limit place parent holders asserted (position + 1) ts
      have hlevel : (place ++ [position]).length = place.length + 1 := List.length_append
      rw [children, piecesOf]
      cases s.replacement parent t.root (s.cursorName place.length) with
      | some text =>
          simp only [List.map_append, List.flatMap_append, List.flatMap_cons, gapPieces,
            flatMap_printed_map _ (.inl rfl), hlevel, hrest, List.append_assoc]
          simp only [Piece.printed, Piece.portions, Piece.level, hlevel]
      | none =>
          have hinside := map_indentLine_body s limit.below (place ++ [position]) t
          rw [hlevel] at hinside
          simp only [List.map_append, List.flatMap_append, gapPieces, flatMap_printed_map _ (.inl rfl),
            hlevel, hrest, flatMap_printed_childPieces s place position t.root _ _ hinside]

end

theorem orPass_of_ne_nil {pieces : List Piece} (h : pieces ≠ []) : orPass pieces = pieces := by
  unfold orPass
  split
  · exact absurd rfl h
  · rfl

/-- A transcript has the lines of its pieces. -/
theorem lines_eq_flatMap (s : Style) (limit : DumpLimit) (t : Tree) :
    lines s limit t = (pieces s limit t).flatMap (Piece.printed s.indent) := by
  have hbody := map_indentLine_body s limit [] t
  rw [List.length_nil, Nat.zero_add, Nat.mul_one] at hbody
  have hheader : Piece.printed s.indent ⟨.header, [], openingText s t.root limit.isExhausted⟩ =
      [openingText s t.root limit.isExhausted] := by
    simp [Piece.printed, Piece.portions, Piece.level]
  rw [lines, pieces, List.flatMap_cons, hheader, List.singleton_append]
  refine congrArg (openingText s t.root limit.isExhausted :: ·) ?_
  by_cases hnil : piecesIn s limit [] t = []
  · have hbodyNil : body s limit 0 t = [] := by
      rwa [hnil, List.flatMap_nil, List.map_eq_nil_iff] at hbody
    rw [hnil, hbodyNil]
    simp [orPass, Piece.printed, Piece.portions, Piece.level]
  · have hbodyNe : (body s limit 0 t).isEmpty = false := by
      rw [← Bool.not_eq_true, List.isEmpty_iff]
      intro hbodyNil
      rw [hbodyNil] at hbody
      exact hnil (flatMap_printed_eq_nil_iff.mp hbody.symm)
    rw [hbodyNe, if_neg Bool.false_ne_true, hbody, orPass_of_ne_nil hnil]

/-! ## Matches -/

/-- The piece that matches a child whose block has the given ones. -/
def matchPiece (s : Style) (depth : Nat) (place : List Nat) (child : Node) (ignoring : Bool)
    (holder : Option String) (inside : List Piece) : Piece :=
  if inside.isEmpty then ⟨.call, place, callText s depth child ignoring holder.isSome⟩
  else ⟨.header, place, headerText s depth child ignoring⟩

@[simp] theorem place_matchPiece (s : Style) (depth : Nat) (place : List Nat) (child : Node)
    (ignoring : Bool) (holder : Option String) (inside : List Piece) :
    (matchPiece s depth place child ignoring holder inside).place = place := by
  unfold matchPiece
  split <;> rfl

theorem filter_isMatch_map {role : Role} (hrole : role ≠ .header ∧ role ≠ .call) (place : List Nat)
    (texts : List String) :
    (texts.map fun text => (⟨role, place, text⟩ : Piece)).filter Piece.isMatch = [] := by
  rw [List.filter_eq_nil_iff]
  intro piece hpiece
  obtain ⟨text, -, rfl⟩ := List.mem_map.mp hpiece
  simp [Piece.isMatch, hrole]

/-- Among the pieces for a child there is one match of the child, in front of those in its block. -/
theorem filter_isMatch_childPieces (s : Style) (depth : Nat) (place : List Nat) (child : Node)
    (ignoring : Bool) (holder : Option String) (inside : List Piece) :
    (childPieces s depth place child ignoring holder inside).filter Piece.isMatch =
      matchPiece s depth place child ignoring holder inside :: inside.filter Piece.isMatch := by
  by_cases hnil : inside = []
  · rw [hnil, childPieces, List.filter_cons_of_pos rfl, filter_isMatch_map (by decide)]
    rfl
  · have hinside : inside.isEmpty = false := by simpa using hnil
    rw [childPieces_of_ne_nil s _ _ _ _ _ hnil, List.filter_cons_of_pos rfl, List.filter_append,
      filter_isMatch_map (by decide), List.append_nil, matchPiece, hinside]
    rfl

theorem filter_isMatch_orPass (pieces : List Piece) :
    (orPass pieces).filter Piece.isMatch = pieces.filter Piece.isMatch := by
  unfold orPass
  split <;> rfl

/-! ## What pieces are about -/

/-- What a piece of a tree says, where the tree itself stands at a place. -/
inductive Says (s : Style) (limit : DumpLimit) (base : List Nat) (t : Tree) : Piece → Prop
  | header {place q : List Nat} {i : Nat} {u : Tree} : place = base ++ q → t.at? (q ++ [i]) = some u →
      Says s limit base t ⟨.header, place ++ [i],
        headerText s place.length u.root (decide (limit = some ((q.length + 1 : Nat) : Int)))⟩
  | call {place q : List Nat} {i : Nat} {u : Tree} (bound : Bool) : place = base ++ q →
      t.at? (q ++ [i]) = some u → Says s limit base t ⟨.call, place ++ [i],
        callText s place.length u.root (decide (limit = some ((q.length + 1 : Nat) : Int))) bound⟩
  | assertion {place : List Nat} {n : Node} {text : String} :
      text ∈ s.assertions n (s.cursorName place.length) → Says s limit base t ⟨.assertion, place, text⟩
  | replacement {place : List Nat} {parent child : Node} {text : String} (i : Nat) :
      s.replacement parent child (s.cursorName place.length) = some text →
      Says s limit base t ⟨.replacement, place ++ [i], text⟩
  | identity {place : List Nat} {reference : String} (i : Nat) (access : String) :
      reference ∈ [s.cursorName (place.length + 1), s.cursorName (place.length + 1) ++ ".node"] →
      Says s limit base t ⟨.identity, place ++ [i],
        s.identity (s.cursorName place.length) access reference⟩
  | gap (place : List Nat) (i : Nat) : Says s limit base t ⟨.gap, place ++ [i], ""⟩

variable {base : List Nat} {n : Node} {ts : List Tree} {t : Tree} {position : Nat} {piece : Piece}

/-- What a piece of a child says, it says seen from the parent. -/
theorem Says.child (hchild : ts[position]? = some t)
    (h : Says s limit.below (base ++ [position]) t piece) :
    Says s limit base (.branch n ts) piece := by
  have hat : ∀ q, (Tree.branch n ts).at? (position :: q) = t.at? q := by
    intro q
    rw [Tree.at?_branch_cons, hchild, Option.bind_some]
  have hplace : ∀ {place q : List Nat}, place = base ++ [position] ++ q → place = base ++ position :: q :=
    fun hq => hq.trans (List.append_cons ..).symm
  have hlimit : ∀ q : List Nat, decide (limit.below = some ((q.length + 1 : Nat) : Int)) =
      decide (limit = some (((position :: q).length + 1 : Nat) : Int)) :=
    fun q => decide_eq_decide.mpr DumpLimit.below_eq_some_iff
  cases h with
  | header hq hu =>
      rw [hlimit]
      exact .header (hplace hq) ((hat _).trans hu)
  | call bound hq hu =>
      rw [hlimit]
      exact .call bound (hplace hq) ((hat _).trans hu)
  | assertion htext => exact .assertion htext
  | replacement i htext => exact .replacement i htext
  | identity i access hreference => exact .identity i access hreference
  | gap place i => exact .gap place i

theorem says_of_mem_gapPieces {asserted : Bool} {holder : Option String}
    (h : piece ∈ gapPieces asserted position holder (base ++ [position])) :
    Says s limit base t piece := by
  obtain ⟨text, htext, rfl⟩ := List.mem_map.mp h
  obtain rfl : text = "" := by
    unfold Transcript.gap at htext
    split at htext
    · exact List.mem_singleton.mp htext
    · cases htext
  exact .gap base position

/-- What is said of a child is a match of the child, what is said in its block, or the identity with an
attribute. -/
theorem says_of_mem_childPieces (hchild : ts[position]? = some t) {holder : Option String}
    {inside : List Piece} (hinside : ∀ p ∈ inside, Says s limit base (.branch n ts) p)
    (h : piece ∈ childPieces s base.length (base ++ [position]) t.root limit.below.isExhausted holder
      inside) : Says s limit base (.branch n ts) piece := by
  have hbase : base = base ++ [] := (List.append_nil base).symm
  have hat : (Tree.branch n ts).at? ([] ++ [position]) = some t := by
    rw [List.nil_append, Tree.at?_branch_cons, hchild, Option.bind_some, Tree.at?_nil]
  have hignoring : limit.below.isExhausted =
      decide (limit = some ((([] : List Nat).length + 1 : Nat) : Int)) := by
    rw [Bool.eq_iff_iff, DumpLimit.isExhausted_iff, DumpLimit.below_eq_some_iff, decide_eq_true_iff]
    rfl
  have hheld : ∀ reference ∈ [s.cursorName (base.length + 1), s.cursorName (base.length + 1) ++ ".node"],
      piece ∈ (heldTexts s base.length reference holder).map (⟨.identity, base ++ [position], ·⟩) →
        Says s limit base (.branch n ts) piece := by
    intro reference hreference hmem
    obtain ⟨text, htext, rfl⟩ := List.mem_map.mp hmem
    obtain ⟨access, -, rfl⟩ := Option.map_eq_some_iff.mp (Option.mem_toList.mp htext)
    exact .identity position access hreference
  -- A child with nothing inside is matched by a call, one with anything by a header.
  by_cases hnil : inside = []
  · rw [hnil, childPieces, hignoring] at h
    rcases List.mem_cons.mp h with rfl | h
    · exact .call holder.isSome hbase hat
    · exact hheld _ List.mem_cons_self h
  · rw [childPieces_of_ne_nil s _ _ _ _ _ hnil, hignoring] at h
    rcases List.mem_cons.mp h with rfl | h
    · exact .header hbase hat
    · rcases List.mem_append.mp h with h | h
      · exact hinside piece h
      · exact hheld _ (List.mem_cons_of_mem _ List.mem_cons_self) h

/-- Every piece in the block of a node says something of the node or of one below it. -/
theorem says_of_mem_piecesIn (h : piece ∈ piecesIn s limit base t) : Says s limit base t piece := by
  induction t using Tree.induct generalizing limit base piece with
  | branch n ts ih =>
      -- The children from a position on, those in front of it being done.
      have hchildren : ∀ done rest : List Tree, done ++ rest = ts → ∀ holders asserted,
          piece ∈ piecesOf s limit base n holders asserted done.length rest →
            Says s limit base (.branch n ts) piece := by
        intro done rest hts holders asserted
        induction rest generalizing done with
        | nil => exact nofun
        | cons t rest ihrest =>
            have hget : ts[done.length]? = some t := by
              rw [← hts, List.getElem?_append_right (Nat.le_refl _), Nat.sub_self]
              rfl
            have hmore := ihrest (done ++ [t]) (by rw [← hts, List.append_assoc]; rfl)
            rw [List.length_append, List.length_singleton] at hmore
            rw [piecesOf]
            cases hreplacement : s.replacement n t.root (s.cursorName base.length) with
            | some text =>
                simp only [List.mem_append, List.mem_cons]
                rintro (hgap | rfl | hrest)
                · exact says_of_mem_gapPieces hgap
                · exact .replacement done.length hreplacement
                · exact hmore hrest
            | none =>
                simp only [List.mem_append]
                rintro ((hgap | hchild) | hrest)
                · exact says_of_mem_gapPieces hgap
                · refine says_of_mem_childPieces hget (fun p hp => ?_) hchild
                  exact (ih t (hts ▸ List.mem_append_right done List.mem_cons_self) hp).child hget
                · exact hmore hrest
      rw [piecesIn, List.mem_append] at h
      rcases h with h | h
      · obtain ⟨text, htext, rfl⟩ := List.mem_map.mp h
        exact .assertion htext
      · split at h
        · cases h
        · exact hchildren [] ts rfl _ _ h

/-- A piece opens the text, says something of the nodes, or is all that there is below the opening. -/
theorem mem_pieces_cases (h : piece ∈ pieces s limit t) :
    piece = ⟨.header, [], openingText s t.root limit.isExhausted⟩ ∨ piece = ⟨.pass, [], "pass"⟩ ∨
      Says s limit [] t piece := by
  rcases List.mem_cons.mp h with rfl | h
  · exact .inl rfl
  · unfold orPass at h
    split at h
    · exact .inr (.inl (List.mem_singleton.mp h))
    · exact .inr (.inr (says_of_mem_piecesIn h))

end TreeShape.Transcript
