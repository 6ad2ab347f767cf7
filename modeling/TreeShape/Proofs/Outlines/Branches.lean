import TreeShape.Proofs.Outlines.Faithful
import TreeShape.Proofs.Places

/-!
# Branches of outlines

The line of a node is told by its place alone: in front of the fork stands one string for every node
above it, which is vertical just if that node has a later sibling in the tree.  The outline has the
lines of the places that the limit shows, one place after the other.

## Strategy

* **Places.**  The printer goes down the tree and keeps the flags of the nodes above.  Seen from a node,
  its own tree is the whole, and all that is known of the rest are these flags: `linesFrom` draws a
  place of a tree that has given flags above it, and `linesFrom_cons` says that a place below a child is
  drawn as the child draws it.  `lines_eq_flatMap` reads the flags off the places.
* **One list of flags.**  The same lines are drawn with one list that is shared by the whole walk.  A
  flag is pushed before a child is drawn and popped behind it, and the strings are looked up in the list
  by their level.  No look-up is out of range, and every walk leaves the list as it was: `draw?_eq`.
  The invariant is that at each moment the list has the flags of the nodes above, one for every level,
  so that what a level looks up is what the walk with values would have been given.
-/

namespace TreeShape

open Outline (Strokes Style indent boundaryLines hiddenText)

namespace Tree

/-! ## Flags of places -/

/-- Whether the node at a place has a later sibling.  The root has none. -/
def isFollowed (t : Tree) (p : List Nat) : Bool :=
  match p.getLast? with
  | none => false
  | some i => (t.at? (p.dropLast ++ [i + 1])).isSome

/-- The same where the root is one of several siblings. -/
def isFollowedFrom (follows : Bool) (t : Tree) (p : List Nat) : Bool :=
  if p.isEmpty then follows else t.isFollowed p

/-- The flags of the nodes above a place, from the root on. -/
def flagsAbove (follows : Bool) (t : Tree) (p : List Nat) : List Bool :=
  (List.range p.length).map fun i => t.isFollowedFrom follows (p.take i)

variable {t u : Tree} {ts : List Tree} {n : Node} {i : Nat} {limit : DumpLimit}

theorem isFollowedFrom_false (t : Tree) (p : List Nat) : t.isFollowedFrom false p = t.isFollowed p := by
  cases p <;> rfl

@[simp] theorem isFollowedFrom_nil (follows : Bool) (t : Tree) : t.isFollowedFrom follows [] = follows := rfl

/-- Seen from a child, the child itself is the root, which may have a later sibling. -/
theorem isFollowedFrom_cons (hu : ts[i]? = some u) (follows : Bool) (p : List Nat) :
    (branch n ts).isFollowedFrom follows (i :: p) = u.isFollowedFrom (decide (i + 1 < ts.length)) p := by
  rcases List.eq_nil_or_concat p with rfl | ⟨q, j, rfl⟩
  · have hnext : (branch n ts).at? [i + 1] = ts[i + 1]? := by
      simp only [at?_branch_cons, at?_nil, Option.bind_fun_some]
    calc (branch n ts).isFollowedFrom follows [i]
        = ((branch n ts).at? [i + 1]).isSome := rfl
      _ = decide (i + 1 < ts.length) := by
          rw [hnext, Bool.eq_iff_iff]
          simp
  · have hcons : (i :: (q ++ [j])).dropLast = i :: q := by
      rw [← List.cons_append, List.dropLast_concat]
    have hlast : (i :: (q ++ [j])).getLast? = some j := by
      rw [← List.cons_append, List.getLast?_concat]
    have hne : (q ++ [j]).isEmpty = false := by cases q <;> rfl
    simp only [isFollowedFrom, isFollowed, List.concat_eq_append, hcons, hlast, hne, List.isEmpty_cons,
      List.cons_append, at?_branch_cons, hu, Option.bind_some, List.dropLast_concat,
      List.getLast?_concat, Bool.false_eq_true, if_false]

theorem flagsAbove_cons (hu : ts[i]? = some u) (follows : Bool) (p : List Nat) :
    (branch n ts).flagsAbove follows (i :: p) =
      follows :: u.flagsAbove (decide (i + 1 < ts.length)) p := by
  rw [flagsAbove, List.length_cons, List.range_succ_eq_map, List.map_cons, List.map_map,
    List.take_zero, isFollowedFrom_nil, flagsAbove]
  congr 1
  refine List.map_congr_left fun k _ => ?_
  rw [Function.comp_apply, List.take_succ_cons, isFollowedFrom_cons hu]

/-! ## Lines of places -/

/-- The lines drawn for a place of a tree whose root has the given nodes above it. -/
def linesFrom (s : Style) (limit : DumpLimit) (above : List Bool) (follows : Bool) (t : Tree)
    (p : List Nat) : List String :=
  match t.at? p with
  | none => []
  | some (.branch n ts) =>
    (indent s.strokes (above ++ t.flagsAbove follows p) (t.isFollowedFrom follows p) ++ s.label n) ::
      if limit = some (p.length : Int) then
        boundaryLines s (above ++ t.flagsAbove follows p) (t.isFollowedFrom follows p) n ts.length
      else []

theorem linesFrom_nil (s : Style) (limit : DumpLimit) (above : List Bool) (follows : Bool) (n : Node)
    (ts : List Tree) : (branch n ts).linesFrom s limit above follows [] =
      (indent s.strokes above follows ++ s.label n) ::
        if limit.isExhausted then boundaryLines s above follows n ts.length else [] := by
  have hnone : (branch n ts).flagsAbove follows [] = [] := rfl
  simp only [linesFrom, at?_nil, hnone, List.append_nil, isFollowedFrom_nil, List.length_nil,
    DumpLimit.isExhausted_iff]

/-- A place below a child is drawn as the child draws it, which stands one step further down. -/
theorem linesFrom_cons (s : Style) (above : List Bool) (follows : Bool) (hu : ts[i]? = some u)
    (p : List Nat) : (branch n ts).linesFrom s limit above follows (i :: p) =
      u.linesFrom s limit.below (above ++ [follows]) (decide (i + 1 < ts.length)) p := by
  have hflags : above ++ (branch n ts).flagsAbove follows (i :: p) =
      (above ++ [follows]) ++ u.flagsAbove (decide (i + 1 < ts.length)) p := by
    rw [flagsAbove_cons hu, ← List.append_cons]
  simp only [linesFrom, at?_branch_cons, hu, Option.bind_some, hflags, isFollowedFrom_cons hu,
    List.length_cons, DumpLimit.below_eq_some_iff]

/-- An outline has the lines of the places that are shown. -/
theorem lines_eq_flatMap_linesFrom (s : Style) (limit : DumpLimit) (above : List Bool) (follows : Bool)
    (t : Tree) : Outline.lines s limit above follows t =
      (t.places limit).flatMap (t.linesFrom s limit above follows) := by
  induction t using Tree.induct generalizing limit above follows with
  | branch n ts ih =>
      -- The children from a position on, those in front of it being done.
      have hchildren : ∀ done rest : List Tree, done ++ rest = ts →
          Outline.linesOfAll s limit.below (above ++ [follows]) rest =
            (placesOf limit.below done.length rest).flatMap
              ((branch n ts).linesFrom s limit above follows) := by
        intro done rest hts
        induction rest generalizing done with
        | nil => rfl
        | cons t rest ihrest =>
            have hget : ts[done.length]? = some t := by
              rw [← hts, List.getElem?_append_right (Nat.le_refl _), Nat.sub_self]
              rfl
            have hfollows : (!rest.isEmpty) = decide (done.length + 1 < ts.length) := by
              rw [← hts]
              cases rest <;> simp
            have hmore := ihrest (done ++ [t]) (by rw [← hts, List.append_assoc]; rfl)
            rw [List.length_append, List.length_singleton] at hmore
            rw [Outline.linesOfAll, placesOf, List.flatMap_append, hmore, List.flatMap_map,
              ih t (hts ▸ List.mem_append_right done List.mem_cons_self), hfollows]
            congr 1
            exact List.flatMap_congr fun p _ => (linesFrom_cons s above follows hget p).symm
      rw [Outline.lines, places, List.flatMap_cons, linesFrom_nil]
      cases limit.isExhausted with
      | true => simp only [if_true, List.flatMap_nil, List.append_nil]
      | false =>
          simp only [Bool.false_eq_true, if_false]
          rw [hchildren [] ts rfl]
          rfl

/-- The strings for the first nodes on the way to a place. -/
def branches (s : Strokes) (t : Tree) (p : List Nat) (levels : Nat) : String :=
  String.join ((List.range levels).map fun i =>
    if t.isFollowed (p.take i) then s.vertical else s.blank)

/-- The line of the node at a place and, if the limit is reached there and hides any child, the line that
tells how many. -/
def linesAt (s : Strokes) (name : Node → String) (limit : DumpLimit) (t : Tree) (p : List Nat) :
    List String :=
  match t.at? p with
  | none => []
  | some (.branch n ts) =>
    (t.branches s p p.length ++ (if t.isFollowed p then s.fork else s.lastFork) ++ name n) ::
      if limit = some (p.length : Int) ∧ ts ≠ [] then
        [t.branches s p (p.length + 1) ++ s.lastFork ++ hiddenText ts.length]
      else []

theorem indent_flagsAbove (s : Strokes) (t : Tree) (p : List Nat) (follows : Bool) :
    indent s (t.flagsAbove false p) follows =
      t.branches s p p.length ++ if follows then s.fork else s.lastFork := by
  simp only [indent, flagsAbove, branches, List.map_map, isFollowedFrom_false, Function.comp_def]

/-- The strings of a node for those below it are one more than those in front of it. -/
theorem indent_flagsAbove_concat (s : Strokes) (t : Tree) (p : List Nat) (follows : Bool) :
    indent s (t.flagsAbove false p ++ [t.isFollowed p]) follows =
      t.branches s p (p.length + 1) ++ if follows then s.fork else s.lastFork := by
  simp only [indent, flagsAbove, branches, List.map_append, List.map_map, isFollowedFrom_false,
    Function.comp_def, List.range_succ, List.map_cons, List.map_nil, List.take_length]

/-- In the usual style the lines are told by the siblings of the nodes on the way. -/
theorem lines_eq_flatMap {s : Style} (hs : ∀ n count, s.boundary n count = some (hiddenText count))
    (limit : DumpLimit) (t : Tree) :
    Outline.lines s limit [] false t = (t.places limit).flatMap (t.linesAt s.strokes s.label limit) := by
  rw [lines_eq_flatMap_linesFrom]
  refine List.flatMap_congr fun p _ => ?_
  unfold linesFrom linesAt
  split
  · rfl
  · next n ts _ =>
      rw [List.nil_append, isFollowedFrom_false, indent_flagsAbove]
      congr 1
      unfold boundaryLines
      by_cases hlimit : limit = some (p.length : Int)
      · cases ts with
        | nil => simp
        | cons t ts => simp [hlimit, hs, indent_flagsAbove_concat]
      · simp [hlimit]

end Tree

/-! ## One list of flags -/

namespace Outline

/-- What a walk that draws an outline keeps: the lines drawn so far, and a flag for every node on the way to
the present one. -/
structure Sheet where
  lines : List String
  flags : List Bool

namespace Sheet

def write (sheet : Sheet) (line : String) : Sheet := { sheet with lines := sheet.lines ++ [line] }

def push (sheet : Sheet) (follows : Bool) : Sheet := { sheet with flags := sheet.flags ++ [follows] }

def pop (sheet : Sheet) : Sheet := { sheet with flags := sheet.flags.dropLast }

end Sheet

/-- The strings in front of a line, whose flags are looked up by their level. -/
def indent? (s : Strokes) (level : Nat) (flags : List Bool) : Option String := do
  let above ← (List.range level).mapM fun i =>
    flags[i]?.map fun follows => if follows then s.vertical else s.blank
  let fork ← flags[level]?.map fun follows => if follows then s.fork else s.lastFork
  return String.join above ++ fork

mutual

/-- Draws a tree whose root has a level.  There is no drawing if a look-up is out of range. -/
def draw? (s : Strokes) (name : Node → String) (limit : DumpLimit) (level : Nat) :
    Tree → Sheet → Option Sheet
  | .branch n ts, sheet => do
    let front ← indent? s level sheet.flags
    let drawn := sheet.write (front ++ name n)
    if limit.isExhausted then
      if ts.isEmpty then
        return drawn
      -- The line below a node is drawn with a copy of the flags.
      let front ← indent? s (level + 1) (drawn.flags ++ [false])
      return drawn.write (front ++ hiddenText ts.length)
    drawAll? s name limit.below (level + 1) ts drawn

/-- Draws siblings, each with its flag. -/
def drawAll? (s : Strokes) (name : Node → String) (limit : DumpLimit) (level : Nat) :
    List Tree → Sheet → Option Sheet
  | [], sheet => some sheet
  | t :: ts, sheet => do
    let drawn ← draw? s name limit level t (sheet.push (!ts.isEmpty))
    drawAll? s name limit level ts drawn.pop

end

/-- All flags of a list are found by their positions, whatever stands behind them. -/
theorem mapM_range_getElem? {α β : Type} (f : α → β) (xs ys : List α) :
    (List.range xs.length).mapM (fun i => (xs ++ ys)[i]?.map f) = some (xs.map f) := by
  induction xs with
  | nil => rfl
  | cons x xs ih =>
      rw [List.length_cons, List.range_succ_eq_map, List.mapM_cons, List.mapM_map]
      simp only [List.cons_append, List.getElem?_cons_zero, Option.map_some, Function.comp_def,
        Nat.succ_eq_add_one, List.getElem?_cons_succ, ih]
      rfl

/-- Where there is a flag for each level, all look-ups are in range. -/
theorem indent?_eq (s : Strokes) (above : List Bool) (follows : Bool) :
    indent? s above.length (above ++ [follows]) = some (indent s above follows) := by
  rw [indent?, mapM_range_getElem?, List.getElem?_concat_length]
  rfl

variable {s : Style}

mutual

/-- A tree is drawn behind what is there already, and the flags are as they were before. -/
theorem draw?_eq (hs : ∀ n count, s.boundary n count = some (hiddenText count)) (limit : DumpLimit)
    (above : List Bool) (follows : Bool) (t : Tree) (drawn : List String) :
    draw? s.strokes s.label limit above.length t ⟨drawn, above ++ [follows]⟩ =
      some ⟨drawn ++ lines s limit above follows t, above ++ [follows]⟩ := by
  obtain ⟨n, ts⟩ := t
  have hlength : (above ++ [follows]).length = above.length + 1 := List.length_append
  -- The list has grown by one flag, so every look-up stays in range.
  have hboundary := indent?_eq s.strokes (above ++ [follows]) false
  have hchildren := drawAll?_eq hs limit.below (above ++ [follows]) ts
    (drawn ++ [indent s.strokes above follows ++ s.label n])
  rw [hlength] at hboundary hchildren
  simp only [draw?, indent?_eq, Option.bind_eq_bind, Option.bind_some, lines, Sheet.write]
  cases limit.isExhausted with
  | true =>
      cases ts with
      | nil => rfl
      | cons t ts =>
          have hpositive : (t :: ts).length ≠ 0 := List.length_eq_zero_iff.not.mpr (List.cons_ne_nil t ts)
          simp only [if_true, List.isEmpty_cons, Bool.false_eq_true, if_false, hboundary,
            Option.bind_some, boundaryLines, hs, if_neg hpositive]
          rw [List.append_assoc]
          rfl
  | false =>
      simp only [Bool.false_eq_true, if_false]
      rw [hchildren, List.append_assoc]
      rfl

theorem drawAll?_eq (hs : ∀ n count, s.boundary n count = some (hiddenText count)) (limit : DumpLimit)
    (above : List Bool) (ts : List Tree) (drawn : List String) :
    drawAll? s.strokes s.label limit above.length ts ⟨drawn, above⟩ =
      some ⟨drawn ++ linesOfAll s limit above ts, above⟩ := by
  cases ts with
  | nil => rw [drawAll?, linesOfAll, List.append_nil]
  | cons t ts =>
      have hfirst := draw?_eq hs limit above (!ts.isEmpty) t drawn
      have hmore := drawAll?_eq hs limit above ts (drawn ++ lines s limit above (!ts.isEmpty) t)
      simp only [drawAll?, Sheet.push, hfirst, Option.bind_eq_bind, Option.bind_some, Sheet.pop,
        List.dropLast_concat, hmore, linesOfAll, List.append_assoc]

end

end Outline

namespace Tree

/-- The lines of the outline of a finite tree are those of the places that the limit shows, in the order of
the walk.  Each starts with one string for every node above, by whether that node has a later sibling, and a
fork by whether the node itself has one.

Drawn with one list of flags, the lines are the same, no look-up is out of range, and behind every tree that
has been drawn the list is what it was before.  The height that views give to trees is no restriction for the
usual adapters, `Adapter.isBounded_view`. -/
theorem outline_branches {a : Adapter} {w : World} (ha : (a.view w).IsBounded) {t : Tree}
    (ht : t.ShownBy (a.view w)) (serial : Nat) (s : Strokes) (limit : DumpLimit) :
    let name := (a.view w).nameText
    let lines := (t.places limit).flatMap (t.linesAt s name limit)
    (Printer.hookedOutline serial a { strokes := s }).render w t.root limit =
      .ok (String.join (lines.map (· ++ "\n"))) ∧
    (∀ p, p ∈ t.places limit ↔ (t.at? p).isSome ∧ limit.Shows p.length) ∧
    (t.places limit).Pairwise (· < ·) ∧
    Outline.draw? s name limit 0 t ⟨[], [false]⟩ = some ⟨lines, [false]⟩ ∧
    ∀ (u : Tree) (limit : DumpLimit) (above : List Bool) (follows : Bool) (drawn : List String),
      ∃ more, Outline.draw? s name limit above.length u ⟨drawn, above ++ [follows]⟩ =
        some ⟨drawn ++ more, above ++ [follows]⟩ := by
  intro name lines
  let style : Style := ⟨s, name, fun _ count => some (hiddenText count)⟩
  have hstyle : ∀ n count, style.boundary n count = some (hiddenText count) := fun _ _ => rfl
  have hlines : Outline.lines style limit [] false t = lines := lines_eq_flatMap hstyle limit t
  refine ⟨?_, fun p => mem_places, pairwise_places t limit, ?_, ?_⟩
  · calc (Printer.hookedOutline serial a { strokes := s }).render w t.root limit
        = .ok ((t.picture name limit).render s) := ht.render_outline (ha t ht) serial s limit
      _ = .ok (Outline.render style limit t) := by rw [render_picture hstyle]
      _ = .ok (String.join (lines.map (· ++ "\n"))) := by rw [Outline.render, hlines]
  · have hdrawn := Outline.draw?_eq hstyle limit [] false t []
    rw [hlines] at hdrawn
    exact hdrawn
  · intro u limit above follows drawn
    exact ⟨_, Outline.draw?_eq hstyle limit above follows u drawn⟩

/-- A pair of a pair and a leaf, which is in all the pairs. -/
def nested : World where
  hierarchy := Sample.hierarchy
  forest := ⟨#[{ type := Sample.pair, children := [.object 1, .object 3] },
    { type := Sample.pair, children := [.object 2, .object 3] },
    { type := Sample.pair, children := [.object 3] }, { type := Sample.leaf }]⟩
  registries := []

def leafTree : Tree := .branch (.object 3) []

def nestedTree : Tree :=
  .branch (.object 0) [.branch (.object 1) [.branch (.object 2) [leafTree], leafTree], leafTree]

theorem shownBy_nestedTree : nestedTree.ShownBy (Sample.adapter.view nested) := by
  have hleaf : leafTree.ShownBy (Sample.adapter.view nested) := .branch rfl nofun
  have hinner : (branch (.object 2) [leafTree]).ShownBy (Sample.adapter.view nested) :=
    .branch rfl (List.forall_mem_singleton.mpr hleaf)
  have hmiddle : (branch (.object 1) [.branch (.object 2) [leafTree], leafTree]).ShownBy
      (Sample.adapter.view nested) :=
    .branch rfl (List.forall_mem_cons.mpr ⟨hinner, List.forall_mem_singleton.mpr hleaf⟩)
  exact .branch rfl (List.forall_mem_cons.mpr ⟨hmiddle, List.forall_mem_singleton.mpr hleaf⟩)

/-- The line below the innermost pair has a string for every pair around it. -/
theorem outline_branches_nested :
    (Sample.adapter.view nested).IsBounded ∧ nestedTree.ShownBy (Sample.adapter.view nested) ∧
    (Printer.hookedOutline 0 Sample.adapter {}).render nested (.object 0) (some 2) =
      .ok (String.join (["+--Pair", "   +--Pair", "   |  +--Pair", "   |  |  +--1 child is not shown",
        "   |  +--Leaf", "   +--Leaf"].map (· ++ "\n"))) := by
  have hbounded := Adapter.isBounded_view (.downward "sample" {}) nested
  refine ⟨hbounded, shownBy_nestedTree, ?_⟩
  obtain ⟨hrender, -⟩ :=
    outline_branches hbounded shownBy_nestedTree 0 .ascii (some 2)
  exact hrender.trans (by decide)

end Tree

end TreeShape
