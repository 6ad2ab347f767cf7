import Mathlib.Data.List.Forall2
import TreeShape.Printer.Hooks
import TreeShape.Proofs.Outlines.Pictures
import TreeShape.Proofs.Replay.Finite
import TreeShape.Proofs.Sample

/-!
# Outlines are faithful

The outline of a tree with a limit is the drawing of a picture: the names of the nodes down to the
limit, and below a node at the limit that has children, a text that tells their number.  Two trees have
the same outline just if they agree down to the limit.

## Strategy

* An outline is the drawing of the picture, `lines_picture`, and pictures can be read back from their
  drawings as long as no text has a line feed, `IsLegible.read_render`.  So equal outlines are
  those of equal pictures.
* Two trees have the same picture just if they agree, `picture_eq_iff`.  The texts below nodes at the
  limit may well be names of nodes.  This does no harm, for they stand one step deeper than any node
  that is shown: both pictures are taken with the same limit, so that a text at this depth is of the
  same kind in both.
* A printer goes no further down than the height of the view.  For a finite tree this shows all of it,
  or enough for the numbers at the limit, `ShownBy.picture_tree`.
-/

namespace TreeShape

open Outline

namespace Tree

/-- Two trees agree down to a limit: their roots have the same name and equally many children, and where
these are shown they agree in turn. -/
inductive AgreesTo (name name' : Node → String) : DumpLimit → Tree → Tree → Prop
  | branch {limit : DumpLimit} {n m : Node} {ts us : List Tree} : name n = name' m →
      ts.length = us.length →
      (limit.isExhausted = false → ∀ pair ∈ ts.zip us, AgreesTo name name' limit.below pair.1 pair.2) →
      AgreesTo name name' limit (.branch n ts) (.branch m us)

end Tree

/-- What a node is called on its line. -/
def View.nameText (v : View) (n : Node) : String := (v.nodeName n).text

/-- What stands below a node at the limit. -/
def Outline.hiddenBelow (count : Nat) : List Picture :=
  if count = 0 then [] else [.node (hiddenText count) []]

namespace Tree

mutual

/-- What the outline of a tree draws. -/
def picture (name : Node → String) (limit : DumpLimit) : Tree → Picture
  | .branch n ts =>
    .node (name n) (if limit.isExhausted then hiddenBelow ts.length else pictures name limit.below ts)

def pictures (name : Node → String) (limit : DumpLimit) : List Tree → List Picture
  | [] => []
  | t :: ts => picture name limit t :: pictures name limit ts

end

variable {name name' : Node → String} {limit : DumpLimit} {v : View} {t u : Tree} {ts us : List Tree}

theorem pictures_eq_map (name : Node → String) (limit : DumpLimit) (ts : List Tree) :
    pictures name limit ts = ts.map (picture name limit) := by
  induction ts with
  | nil => rfl
  | cons t ts ih => rw [pictures, ih, List.map_cons]

/-! ## Drawings -/

mutual

/-- In the usual style an outline is the drawing of the picture. -/
theorem lines_picture {s : Style} (hs : ∀ n count, s.boundary n count = some (hiddenText count))
    (limit : DumpLimit) (above : List Bool) (follows : Bool) (t : Tree) :
    Outline.lines s limit above follows t = (t.picture s.label limit).lines s.strokes above follows := by
  obtain ⟨n, ts⟩ := t
  rw [Outline.lines, picture, Picture.lines]
  congr 1
  cases limit.isExhausted with
  | true =>
      simp only [if_true]
      rw [boundaryLines, hiddenBelow, hs]
      split
      · rfl
      · rfl
  | false =>
      simp only [Bool.false_eq_true, if_false]
      exact linesOfAll_pictures hs limit.below (above ++ [follows]) ts

theorem linesOfAll_pictures {s : Style}
    (hs : ∀ n count, s.boundary n count = some (hiddenText count)) (limit : DumpLimit)
    (above : List Bool) (ts : List Tree) :
    Outline.linesOfAll s limit above ts =
      Picture.linesOfAll s.strokes above (pictures s.label limit ts) := by
  cases ts with
  | nil => rfl
  | cons t ts =>
      have hlast : (pictures s.label limit ts).isEmpty = ts.isEmpty := by cases ts <;> rfl
      rw [Outline.linesOfAll, pictures, Picture.linesOfAll, hlast, lines_picture hs limit above _ t,
        linesOfAll_pictures hs limit above ts]

end

theorem render_picture {s : Style} (hs : ∀ n count, s.boundary n count = some (hiddenText count))
    (limit : DumpLimit) (t : Tree) :
    Outline.render s limit t = (t.picture s.label limit).render s.strokes := by
  rw [Outline.render, Picture.render, lines_picture hs]

/-! ## Agreement -/

end Tree

namespace Outline

/-- Different numbers of children are told by different texts. -/
theorem hiddenText_injective {i j : Nat} (h : hiddenText i = hiddenText j) : i = j := by
  have hlong : ∀ n : Nat, "1 child is not shown" ≠ toString n ++ " children are not shown" := by
    intro n heq
    have hlength := congrArg String.length heq
    rw [String.length_append] at hlength
    have hshort : "1 child is not shown".length < " children are not shown".length := by decide
    omega
  unfold hiddenText at h
  split at h <;> split at h
  · omega
  · exact absurd h (hlong j)
  · exact absurd h.symm (hlong i)
  · exact eq_of_toString_eq ((String.append_left_inj " children are not shown").mp h)

theorem hiddenBelow_eq_iff {i j : Nat} : hiddenBelow i = hiddenBelow j ↔ i = j := by
  constructor
  · intro h
    unfold hiddenBelow at h
    split at h <;> split at h
    · omega
    · cases h
    · cases h
    · simp only [List.cons.injEq, Picture.node.injEq, and_true] at h
      exact hiddenText_injective h
  · rintro rfl
    rfl

theorem newline_not_mem_hiddenText (count : Nat) : '\n' ∉ (hiddenText count).toList := by
  unfold hiddenText
  split
  · decide
  · rw [String.toList_append, List.mem_append]
    exact not_or.mpr ⟨Text.newline_not_mem_toString count, by decide⟩

end Outline

namespace Tree

variable {name name' : Node → String} {limit : DumpLimit} {v : View} {t u : Tree} {ts us : List Tree}

/-- Trees have the same picture just if they agree. -/
theorem picture_eq_iff :
    t.picture name limit = u.picture name' limit ↔ t.AgreesTo name name' limit u := by
  induction t using Tree.induct generalizing limit u with
  | branch n ts ih =>
      obtain ⟨m, us⟩ := u
      rw [picture, picture, Picture.node.injEq]
      -- At the limit the pictures tell only how many children there are.
      cases hlimit : limit.isExhausted with
      | true =>
          simp only [if_true, hiddenBelow_eq_iff]
          constructor
          · rintro ⟨hname, hlength⟩
            exact .branch hname hlength fun h => nomatch hlimit.symm.trans h
          · rintro ⟨hname, hlength, -⟩
            exact ⟨hname, hlength⟩
      | false =>
          simp only [Bool.false_eq_true, if_false, pictures_eq_map]
          rw [← List.forall₂_eq_eq_eq, List.forall₂_map_left_iff, List.forall₂_map_right_iff,
            List.forall₂_iff_zip]
          have hbelow : ∀ pair ∈ ts.zip us,
              pair.1.picture name limit.below = pair.2.picture name' limit.below ↔
                pair.1.AgreesTo name name' limit.below pair.2 :=
            fun pair hpair => ih pair.1 (List.of_mem_zip hpair).1
          constructor
          · rintro ⟨hname, hlength, hpairs⟩
            exact .branch hname hlength fun _ pair hpair => (hbelow pair hpair).mp (hpairs hpair)
          · rintro ⟨hname, hlength, hpairs⟩
            exact ⟨hname, hlength, fun hpair => (hbelow _ hpair).mpr (hpairs hlimit _ hpair)⟩

/-- The texts of a picture are names of nodes that are shown, or tell how many are not. -/
theorem of_mem_entries {e : Nat × String} {depth : Nat}
    (he : e ∈ (t.picture name limit).entries depth) :
    (∃ n, t.Shown limit n ∧ e.2 = name n) ∨ ∃ count, e.2 = hiddenText count := by
  induction t using Tree.induct generalizing depth limit with
  | branch n ts ih =>
      rw [picture, Picture.entries, List.mem_cons] at he
      rcases he with rfl | he
      · exact .inl ⟨n, .root, rfl⟩
      · obtain ⟨p, hp, he⟩ := Picture.mem_entriesOfAll.mp he
        cases hlimit : limit.isExhausted with
        | true =>
            simp only [hlimit, if_true, hiddenBelow] at hp
            split at hp
            · cases hp
            · obtain rfl := List.mem_singleton.mp hp
              obtain rfl := List.mem_singleton.mp he
              exact .inr ⟨_, rfl⟩
        | false =>
            simp only [hlimit, Bool.false_eq_true, if_false, pictures_eq_map, List.mem_map] at hp
            obtain ⟨t, ht, rfl⟩ := hp
            rcases ih t ht he with ⟨m, hm, hname⟩ | hhidden
            · exact .inl ⟨m, .child hlimit ht hm, hname⟩
            · exact .inr hhidden

/-! ## Printing -/

/-- What a view shows of the tree is enough for its picture, if it goes down to the end of the tree or one
step further than the limit. -/
theorem ShownBy.picture_tree (h : t.ShownBy v) {steps : Nat}
    (hsteps : t.Within steps ∨ ∃ d : Nat, limit = some (d : Int) ∧ d < steps) :
    (v.tree steps t.root).picture name limit = t.picture name limit := by
  induction steps generalizing t limit with
  | zero =>
      obtain ⟨n, ts⟩ := t
      rcases hsteps with hts | ⟨d, -, hd⟩
      · obtain rfl : ts = [] := hts
        rfl
      · cases hd
  | succ steps ih =>
      obtain ⟨n, ts⟩ := t
      rw [root, View.tree, h.children, picture, picture, List.length_map, List.length_map]
      cases hlimit : limit.isExhausted with
      | true => rfl
      | false =>
          simp only [Bool.false_eq_true, if_false, pictures_eq_map, List.map_map]
          congr 1
          refine List.map_congr_left fun t ht => ih (h.subtree ht) ?_
          rcases hsteps with hts | ⟨d, rfl, hd⟩
          · exact .inl (hts t ht)
          · obtain ⟨hpos, hbelow⟩ := DumpLimit.below_natCast hlimit
            exact .inr ⟨d - 1, hbelow, by omega⟩

/-- The outline of a finite tree is the drawing of its picture. -/
theorem ShownBy.render_outline {a : Adapter} {w : World} (h : t.ShownBy (a.view w))
    (ht : t.Within (a.view w).height) (serial : Nat) (s : Strokes) (limit : DumpLimit) :
    (Printer.hookedOutline serial a { strokes := s }).render w t.root limit =
      .ok ((t.picture (a.view w).nameText limit).render s) := by
  have hask : (a.view w).askWithin View.refusesNothing View.skipsNone
      (limit.reach (a.view w).height) t.root = .ok () := by
    -- No node refuses, also beyond the limit.
    have hnone := h.refusalWithin_refusesNothing View.skipsNone 0 (limit.reach (a.view w).height)
    rw [View.askWithin, hnone]
  have hsteps : t.Within (limit.reach (a.view w).height) ∨
      ∃ d : Nat, limit = some (d : Int) ∧ d < limit.reach (a.view w).height := by
    cases limit with
    | none => exact .inl ht
    | some d =>
        rw [DumpLimit.reach]
        split
        · exact .inl ht
        · exact .inr ⟨d.toNat, by congr 1; omega, Nat.lt_succ_self _⟩
  have hlabel : (OutlineHooks.style { strokes := s } a w).label = (a.view w).nameText := by
    funext n
    exact String.append_empty
  simp only [Printer.hookedOutline, Printer.outline, hask, View.visible]
  rw [render_picture (s := OutlineHooks.style { strokes := s } a w) (fun _ _ => rfl), hlabel,
    h.picture_tree hsteps]
  rfl

/-- The picture of a tree whose names have no line feed is read back from its drawing. -/
theorem read_picture {s : Strokes} (hs : s.IsLegible)
    (hnames : ∀ n, t.Shown limit n → '\n' ∉ (name n).toList) :
    s.read ((t.picture name limit).render s) = some (t.picture name limit) := by
  refine hs.read_render fun e he => ?_
  rcases of_mem_entries he with ⟨n, hn, hname⟩ | ⟨count, htext⟩
  · rw [hname]
    exact hnames n hn
  · rw [htext]
    exact newline_not_mem_hiddenText count

/-- Two finite trees whose names have no line feed have the same outline just if they agree down to the
limit, and what an outline draws can be read back from it.  Both of the usual sets of strokes are legible.
The height that views give to trees is no restriction for the usual adapters, `Adapter.isBounded_view`. -/
theorem outline_faithful :
    (∀ (a : Adapter) (s : Strokes), s.IsLegible → ∀ w w' : World,
      (a.view w).IsBounded → (a.view w').IsBounded →
      ∀ t u : Tree, t.ShownBy (a.view w) → u.ShownBy (a.view w') → ∀ (serial : Nat) (limit : DumpLimit),
      (∀ n, t.Shown limit n → '\n' ∉ ((a.view w).nameText n).toList) →
      (∀ n, u.Shown limit n → '\n' ∉ ((a.view w').nameText n).toList) →
      ∃ text text',
        (Printer.hookedOutline serial a { strokes := s }).render w t.root limit = .ok text ∧
        (Printer.hookedOutline serial a { strokes := s }).render w' u.root limit = .ok text' ∧
        (text = text' ↔ t.AgreesTo (a.view w).nameText (a.view w').nameText limit u) ∧
        s.read text = some (t.picture (a.view w).nameText limit)) ∧
    Strokes.ascii.IsLegible ∧ Strokes.boxes.IsLegible := by
  refine ⟨?_, Strokes.isLegible_ascii, Strokes.isLegible_boxes⟩
  intro a s hs w w' ha ha' t u ht hu serial limit hnames hnames'
  refine ⟨_, _, ht.render_outline (ha t ht) serial s limit, hu.render_outline (ha' u hu) serial s limit,
    ?_, read_picture hs hnames⟩
  rw [← picture_eq_iff]
  constructor
  · intro htexts
    have hread := read_picture hs hnames
    rw [htexts, read_picture hs hnames'] at hread
    exact (Option.some.inj hread).symm
  · exact fun hpictures => congrArg (Picture.render s) hpictures

/-- A node with a stored name. -/
def named (type : NodeType) (children : List Node) (name : String) : NodeRecord :=
  { type, children, attributes := .ofEntries [("name", .text name)] }

/-- Two pairs that are called like a fork.  One has a leaf that is called like what stands below a node at
the limit, the other a leaf called like an indented fork beside it. -/
def disguised : World where
  hierarchy := Sample.hierarchy
  forest := ⟨#[named Sample.pair [.object 1] "+--", named Sample.leaf [] "1 child is not shown",
    named Sample.pair [.object 1, .object 3] "+--", named Sample.leaf [] "   +--"]⟩
  registries := []

def byName : Adapter := .downward "by name" { nameAttribute := some "name" }

def lone : Tree := .branch (.object 0) [.branch (.object 1) []]

def twofold : Tree := .branch (.object 2) [.branch (.object 1) [], .branch (.object 3) []]

theorem shownBy_lone : lone.ShownBy (byName.view disguised) :=
  .branch rfl (List.forall_mem_singleton.mpr (.branch rfl nofun))

theorem shownBy_twofold : twofold.ShownBy (byName.view disguised) :=
  .branch rfl (List.forall_mem_cons.mpr
    ⟨.branch rfl nofun, List.forall_mem_singleton.mpr (.branch rfl nofun)⟩)

theorem unbroken_disguised (n : Node) : '\n' ∉ ((byName.view disguised).nameText n).toList := by
  match n with
  | .absent => decide
  | .object 0 => decide
  | .object 1 => decide
  | .object 2 => decide
  | .object 3 => decide
  | .object (i + 4) =>
    -- There is no such node, so it is called like the empty place.
    have hrecord : disguised.forest.record? (.object (i + 4)) = disguised.forest.record? .absent :=
      Array.getElem?_eq_none (Nat.le_add_left 4 i)
    have hname : (byName.view disguised).nameText (.object (i + 4)) =
        (byName.view disguised).nameText .absent := by
      simp only [View.nameText, byName, Adapter.downward, Naming.nodeName, Option.bind_some,
        World.storedName?, Forest.attributes, World.typeOf, Forest.typeOf, hrecord]
    rw [hname]
    decide

/-- The leaf is not taken for what stands below a node at the limit, nor the one called like a fork for a
fork: the outlines differ, and the tree is read back from its own. -/
theorem outline_faithful_disguised :
    (byName.view disguised).IsBounded ∧ Strokes.ascii.IsLegible ∧
    lone.ShownBy (byName.view disguised) ∧ twofold.ShownBy (byName.view disguised) ∧
    (∀ n, '\n' ∉ ((byName.view disguised).nameText n).toList) ∧
    ∃ text text',
      (Printer.hookedOutline 0 byName {}).render disguised (.object 2) none = .ok text ∧
      (Printer.hookedOutline 0 byName {}).render disguised (.object 0) none = .ok text' ∧
      text ≠ text' ∧
      Strokes.ascii.read text =
        some (.node "+--" [.node "1 child is not shown" [], .node "   +--" []]) := by
  have hbounded := Adapter.isBounded_view (.downward "by name" { nameAttribute := some "name" }) disguised
  obtain ⟨text, text', htext, htext', hagree, hread⟩ := outline_faithful.1 byName .ascii
    Strokes.isLegible_ascii disguised disguised hbounded hbounded twofold lone shownBy_twofold
    shownBy_lone 0 none (fun n _ => unbroken_disguised n) fun n _ => unbroken_disguised n
  refine ⟨hbounded, Strokes.isLegible_ascii, shownBy_lone, shownBy_twofold, unbroken_disguised, text,
    text', htext, htext', ?_, hread⟩
  intro hsame
  cases hagree.mp hsame with
  | branch _ hlength _ => cases hlength

end Tree

end TreeShape
