import Mathlib.Data.List.Forall2
import TreeShape.Proofs.Attributes.Dumped
import TreeShape.Proofs.Layout.Pieces
import TreeShape.Proofs.Sample

/-!
# Limits of transcripts

A limit cuts a transcript off cleanly, `dump_truncated`.

## Strategy

* A limit that no branch reaches is as good as none: the body of every node is the one without a limit, and so
  are the refusals that the walk meets, `body_of_within` and `refusalTo_of_within`.  Both go down the height
  of the tree, and the children of a node are compared one after the other, `children_congr`.
* Two trees that look the same down to a depth, `SameTo`, have the same dump with this limit, whatever lies
  further down, `dump_congr`.  What looking the same means is up to the style, `Style.Agrees`: dumps of
  structure see the names of types, dumps of attributes also the values under the names of attributes,
  `same_of_sameValues`, and which of them hold the children, `alike_of_sameValues`.
* A dump with a limit matches the nodes down to it, each of them once, and says that the children are ignored
  at those where the limit is reached, `exactly_render`.  The text is cut into pieces, and the pieces that
  match something stand at the places that the limit shows, `places_matches_pieces`.
-/

namespace TreeShape

open Transcript

variable {s s' : Style} {limit limit' : DumpLimit} {same alike : Node → Node → Prop}

/-! ## The children of two nodes -/

namespace Transcript

/-- Two styles say things in the same way, though perhaps not about the same nodes. -/
structure Style.Echoes (s s' : Style) : Prop where
  indent : s.indent = s'.indent
  identity : s.identity = s'.identity
  cursorName : s.cursorName = s'.cursorName

theorem Style.Echoes.refl (s : Style) : s.Echoes s := ⟨rfl, rfl, rfl⟩

/-- The statements for a child depend on the type of the child. -/
theorem childLines_congr (h : s.Echoes s') (depth : Nat) {child child' : Node}
    (htype : s.typeExpression child = s'.typeExpression child') (ignoring : Bool)
    (holder : Option String) (body : List String) :
    childLines s depth child ignoring holder body = childLines s' depth child' ignoring holder body := by
  simp only [childLines, htype, h.indent, h.identity, h.cursorName]

/-- What two dumps say of a child of two nodes is the same. -/
structure Style.SaysSame (s s' : Style) (limit limit' : DumpLimit) (depth : Nat) (parent parent' : Node)
    (t u : Tree) : Prop where
  replacement : s.replacement parent t.root (s.cursorName depth) =
    s'.replacement parent' u.root (s'.cursorName depth)
  typeExpression : s.typeExpression t.root = s'.typeExpression u.root
  body : Transcript.body s limit (depth + 1) t = Transcript.body s' limit' (depth + 1) u

/-- The statements for the children of two nodes are the same if they are so for one after the other. -/
theorem children_congr (h : s.Echoes s') {depth : Nat} {parent parent' : Node}
    {holders holders' : List (Int × String)} (asserted : Bool)
    (hholders : ∀ i : Nat, holders.lookup (i : Int) = holders'.lookup (i : Int))
    (hexhausted : limit.below.isExhausted = limit'.below.isExhausted) {ts us : List Tree}
    (hts : List.Forall₂ (s.SaysSame s' limit.below limit'.below depth parent parent') ts us)
    (position : Nat) :
    children s limit depth parent holders asserted position ts =
      children s' limit' depth parent' holders' asserted position us := by
  induction hts generalizing position with
  | nil => rfl
  | cons hfirst _ ih =>
      rw [children, children, hfirst.replacement, hholders, hfirst.body, hexhausted, ih]
      split
      · rfl
      · dsimp only
        rw [childLines_congr h depth hfirst.typeExpression]

/-- Two styles without replacements say the same of nodes that are the same, and hold the children of nodes
that are alike by the same attributes. -/
structure Style.Agrees (s s' : Style) (same alike : Node → Node → Prop) : Prop
    extends s.Echoes s' where
  replacement : ∀ parent child cursor, s.replacement parent child cursor = none
  replacement' : ∀ parent child cursor, s'.replacement parent child cursor = none
  refusal : ∀ {n m}, same n m → s.refusal n = s'.refusal m
  assertions : ∀ {n m}, same n m → s.assertions n = s'.assertions m
  typeExpression : ∀ {n m}, same n m → s.typeExpression n = s'.typeExpression m
  opening : ∀ {n m}, same n m → s.opening n = s'.opening m
  holders : ∀ {n m}, alike n m → ∀ i : Nat,
    (s.holders n).lookup (i : Int) = (s'.holders m).lookup (i : Int)

end Transcript

namespace Tree

/-! ## Limits that are not reached -/

/-- Where no branch reaches the limit, the body is that without a limit. -/
theorem body_of_within (s : Style) {t : Tree} {height : Nat} (ht : t.Within height)
    (hlimit : limit.Shows (height + 1)) (depth : Nat) :
    body s limit depth t = body s none depth t := by
  induction height generalizing t limit depth with
  | zero =>
      obtain ⟨n, ts⟩ := t
      obtain rfl : ts = [] := ht
      rw [body, body, (DumpLimit.shows_succ_iff.mp hlimit).1]
      rfl
  | succ height ih =>
      obtain ⟨n, ts⟩ := t
      obtain ⟨hexhausted, hbelow⟩ := DumpLimit.shows_succ_iff.mp hlimit
      have hnone : DumpLimit.isExhausted none = false := rfl
      rw [body, body, hexhausted, hnone, if_neg Bool.false_ne_true, if_neg Bool.false_ne_true]
      congr 1
      refine children_congr (.refl s) _ (fun _ => rfl) (DumpLimit.shows_succ_iff.mp hbelow).1 ?_ 0
      exact List.forall₂_same.mpr fun t htmem => ⟨rfl, rfl, ih (ht t htmem) hbelow (depth + 1)⟩

/-- The refusals of the children of two nodes are the same if they are so one after the other. -/
theorem refusalToAll_congr {own own' : Node → Option Failure} {skips skips' : Nat → Node → Node → Bool}
    {depth : Nat} {parent parent' : Node} {ts us : List Tree}
    (hts : List.Forall₂ (fun t u => skips depth parent t.root = skips' depth parent' u.root ∧
      t.refusalTo own skips limit (depth + 1) = u.refusalTo own' skips' limit' (depth + 1)) ts us) :
    refusalToAll own skips limit depth parent ts = refusalToAll own' skips' limit' depth parent' us := by
  induction hts with
  | nil => rfl
  | cons hfirst _ ih => rw [refusalToAll, refusalToAll, hfirst.1, hfirst.2, ih]

/-- Where no branch reaches the limit, the walk meets the refusals that it meets without a limit. -/
theorem refusalTo_of_within (own : Node → Option Failure) (skips : Nat → Node → Node → Bool) {t : Tree}
    {height : Nat} (ht : t.Within height) (hlimit : limit.Shows (height + 1)) (depth : Nat) :
    t.refusalTo own skips limit depth = t.refusalTo own skips none depth := by
  induction height generalizing t limit depth with
  | zero =>
      obtain ⟨n, ts⟩ := t
      obtain rfl : ts = [] := ht
      rw [refusalTo, refusalTo, (DumpLimit.shows_succ_iff.mp hlimit).1]
      rfl
  | succ height ih =>
      obtain ⟨n, ts⟩ := t
      obtain ⟨hexhausted, hbelow⟩ := DumpLimit.shows_succ_iff.mp hlimit
      have hnone : DumpLimit.isExhausted none = false := rfl
      rw [refusalTo, refusalTo, hexhausted, hnone, if_neg Bool.false_ne_true, if_neg Bool.false_ne_true]
      congr 1
      exact refusalToAll_congr
        (List.forall₂_same.mpr fun t htmem => ⟨rfl, ih (ht t htmem) hbelow (depth + 1)⟩)

/-- A limit that no branch reaches is as good as none. -/
theorem dump_of_within (s : Style) {t : Tree} {height : Nat} (ht : t.Within height)
    (hlimit : limit.Shows (height + 1)) : t.dump s limit = t.dump s none := by
  have hexhausted := (DumpLimit.shows_succ_iff.mp hlimit).1
  have hrender : render s limit t = render s none t := by
    simp only [render, lines, body_of_within s ht hlimit, hexhausted]
    rfl
  rw [dump, dump, refusalTo_of_within _ _ ht hlimit, hrender]

/-! ## Trees that look the same down to a depth -/

/-- Two trees look the same down to a depth: their nodes are the same there, and those above the depth are
alike as parents of their children, which are as many. -/
def SameTo (same alike : Node → Node → Prop) : Nat → Tree → Tree → Prop
  | 0, t, u => same t.root u.root
  | depth + 1, t, u => same t.root u.root ∧ alike t.root u.root ∧
    List.Forall₂ (SameTo same alike depth) t.subtrees u.subtrees

theorem SameTo.root {depth : Nat} {t u : Tree} (h : t.SameTo same alike depth u) : same t.root u.root := by
  cases depth with
  | zero => exact h
  | succ depth => exact h.1

variable {depth : Nat} {t u : Tree}

theorem body_of_sameTo (h : s.Agrees s' same alike) (htu : t.SameTo same alike depth u) (level : Nat) :
    body s (some (depth : Int)) level t = body s' (some (depth : Int)) level u := by
  induction depth generalizing t u level with
  | zero =>
      obtain ⟨n, ts⟩ := t
      obtain ⟨m, us⟩ := u
      have hsame : same n m := htu
      rw [body, body, h.assertions hsame, h.cursorName]
      rfl
  | succ depth ih =>
      obtain ⟨n, ts⟩ := t
      obtain ⟨m, us⟩ := u
      obtain ⟨hsame, halike, hts⟩ : same n m ∧ alike n m ∧
        List.Forall₂ (SameTo same alike depth) ts us := htu
      obtain ⟨hexhausted, hbelow⟩ := DumpLimit.below_natCast_succ depth
      -- Child by child, the same is said one level below.
      have hpairs : List.Forall₂ (s.SaysSame s' (some (depth : Int)) (some (depth : Int)) level n m) ts us :=
        hts.imp fun t u htu =>
          ⟨(h.replacement ..).trans (h.replacement' ..).symm, h.typeExpression htu.root,
            ih htu (level + 1)⟩
      rw [← hbelow] at hpairs
      have hchildren := children_congr h.toEchoes (!(s'.assertions m (s'.cursorName level)).isEmpty)
        (h.holders halike) rfl hpairs 0
      rw [body, body, h.assertions hsame, h.cursorName, hexhausted, if_neg Bool.false_ne_true,
        if_neg Bool.false_ne_true, hchildren]

theorem refusalTo_of_sameTo (h : s.Agrees s' same alike) (htu : t.SameTo same alike depth u)
    (level : Nat) : t.refusalTo s.refusal s.replaces (some (depth : Int)) level =
      u.refusalTo s'.refusal s'.replaces (some (depth : Int)) level := by
  induction depth generalizing t u level with
  | zero =>
      obtain ⟨n, ts⟩ := t
      obtain ⟨m, us⟩ := u
      have hsame : same n m := htu
      rw [refusalTo, refusalTo, h.refusal hsame]
      rfl
  | succ depth ih =>
      obtain ⟨n, ts⟩ := t
      obtain ⟨m, us⟩ := u
      obtain ⟨hsame, -, hts⟩ : same n m ∧ alike n m ∧
        List.Forall₂ (SameTo same alike depth) ts us := htu
      obtain ⟨hexhausted, hbelow⟩ := DumpLimit.below_natCast_succ depth
      have hskips : ∀ parent child parent' child', s.replaces level parent child =
          s'.replaces level parent' child' := by
        intro parent child parent' child'
        rw [Style.replaces, Style.replaces, h.replacement, h.replacement']
      rw [refusalTo, refusalTo, h.refusal hsame, hexhausted, if_neg Bool.false_ne_true,
        if_neg Bool.false_ne_true, hbelow]
      congr 1
      exact refusalToAll_congr (hts.imp fun t u htu => ⟨hskips .., ih htu (level + 1)⟩)

/-- Two trees that look the same down to a depth have the same dump with this limit. -/
theorem dump_congr (h : s.Agrees s' same alike) (htu : t.SameTo same alike depth u) :
    t.dump s (some (depth : Int)) = u.dump s' (some (depth : Int)) := by
  have hrender : render s (some (depth : Int)) t = render s' (some (depth : Int)) u := by
    simp only [render, lines, body_of_sameTo h htu, h.opening htu.root, h.indent, h.cursorName]
  rw [dump, dump, refusalTo_of_sameTo h htu, hrender]

end Tree

/-! ## The usual styles -/

namespace AttributeDump

/-- What a dump tells of the attributes of a node: the names, whether the values are compared by identity,
and the literals. -/
def tales (w : World) (n : Node) : List (String × Bool × Option String) :=
  (told w n).map fun e => (e.1, e.2.isIdentified, e.2.literal? w.hierarchy)

theorem assertions_eq_tales (w : World) (n : Node) (cursor : String) :
    assertions (plain w.hierarchy) w n cursor = (tales w n).map fun tale =>
      "assert " ++ cursor ++ ".node." ++ tale.1 ++ (if tale.2.1 then " is " else " == ") ++
        tale.2.2.getD "" := by
  rw [assertions_eq, tales, List.map_map]
  rfl

end AttributeDump

variable {w w' : World}

/-- Transcripts of structure see the names of types and nothing else. -/
theorem Transcript.agrees_plain (indent : Nat) (w w' : World) :
    (plain indent w.typeNameOf).Agrees (plain indent w'.typeNameOf)
      (fun n m => w.typeNameOf n = w'.typeNameOf m) fun _ _ => True where
  toEchoes := ⟨rfl, rfl, rfl⟩
  replacement _ _ _ := rfl
  replacement' _ _ _ := rfl
  refusal _ := rfl
  assertions _ := rfl
  typeExpression h := h
  opening h := by simp only [plain, h]
  holders _ _ := rfl

/-- Nodes are the same to a dump of attributes: they have types of one name, and their attributes tell the
same, or cannot be told for the same reason. -/
def AttributeDump.Same (w w' : World) (n m : Node) : Prop :=
  w.typeNameOf n = w'.typeNameOf m ∧ w.tableRefusal n = w'.tableRefusal m ∧ tales w n = tales w' m

/-- Nodes are alike as parents: the same attributes hold their children. -/
def AttributeDump.Alike (w w' : World) (v v' : View) (n m : Node) : Prop :=
  ∀ position : Nat, holder? (plain w.hierarchy) w (v.children n) n position =
    holder? (plain w'.hierarchy) w' (v'.children m) m position

namespace AttributeDump

variable {n m : Node}

/-- Nodes whose types have one name are the same to a dump if they have the same attributes among those whose
values have literals. -/
theorem same_of_literals (hhierarchy : w.hierarchy = w'.hierarchy)
    (htype : w.typeNameOf n = w'.typeNameOf m) (hrefusal : w.tableRefusal n = w'.tableRefusal m)
    (h : ∀ e : String × Value, isPublic e.1 = true → (e.2.literal? w.hierarchy).isSome = true →
      (e ∈ (gathered w n).entries ↔ e ∈ (gathered w' m).entries)) : Same w w' n m := by
  have hsame : ∀ e, e ∈ told w n ↔ e ∈ told w' m := by
    intro e
    rw [told, told, List.mem_filter, List.mem_filter, mem_attributesOf_iff, mem_attributesOf_iff,
      ← hhierarchy, and_assoc, and_assoc]
    constructor
    · rintro ⟨he, hpublic, hliteral⟩
      exact ⟨(h e hpublic hliteral).mp he, hpublic, hliteral⟩
    · rintro ⟨he, hpublic, hliteral⟩
      exact ⟨(h e hpublic hliteral).mpr he, hpublic, hliteral⟩
  have htold : told w n = told w' m :=
    eq_of_mem_iff ((pairwise_attributesOf _ w n).filter _) ((pairwise_attributesOf _ w' m).filter _) hsame
  exact ⟨htype, hrefusal, by rw [tales, tales, htold, hhierarchy]⟩

/-- Two nodes have the same values under the same names: their tables show the same, or cannot be read for
the same reason, and the properties that their own types declare are the same where they can be read. -/
structure SameValues (w w' : World) (n m : Node) : Prop where
  hierarchy : w.hierarchy = w'.hierarchy
  refusal : w.tableRefusal n = w'.tableRefusal m
  stored : ∀ e, e ∈ (shown w n).entries ↔ e ∈ (shown w' m).entries
  computed : ∀ e : String × Value,
    e.1 ∈ (w.hierarchy.info (w.typeOf n)).properties.map Prod.fst ∧ w.read n e.1 = .ok e.2 ↔
      e.1 ∈ (w'.hierarchy.info (w'.typeOf m)).properties.map Prod.fst ∧ w'.read m e.1 = .ok e.2

theorem SameValues.mem_gathered_iff (h : SameValues w w' n m) (e : String × Value) :
    e ∈ (gathered w n).entries ↔ e ∈ (gathered w' m).entries := by
  have hpresents : w.Presents n e.1 ↔ w'.Presents m e.1 := by
    unfold World.Presents
    rw [← exists_and_left, ← exists_and_left]
    exact exists_congr fun v => h.computed (e.1, v)
  rw [AttributeDump.mem_gathered_iff, AttributeDump.mem_gathered_iff, h.computed, h.stored, hpresents]

/-- Dumps of attributes do not tell nodes with the same values apart. -/
theorem same_of_sameValues (h : SameValues w w' n m) (htype : w.typeNameOf n = w'.typeNameOf m) :
    Same w w' n m :=
  same_of_literals h.hierarchy htype h.refusal fun e _ _ => h.mem_gathered_iff e

/-- The same attributes hold the children of nodes with the same values, if the children are the same and
the values have the same items. -/
theorem alike_of_sameValues (h : SameValues w w' n m) {v v' : View} (hchildren : v.children n = v'.children m)
    (hopened : ∀ e ∈ (gathered w n).entries, w.opened e.2 = w'.opened e.2) : Alike w w' v v' n m := by
  have hlisted : ∀ e, e ∈ attributesOf (plain w.hierarchy) w n ↔
      e ∈ attributesOf (plain w'.hierarchy) w' m := by
    intro e
    rw [mem_attributesOf_iff, mem_attributesOf_iff, h.mem_gathered_iff]
    rfl
  have hattributes := eq_of_mem_iff (pairwise_attributesOf ..) (pairwise_attributesOf ..) hlisted
  have hplaces : (attributesOf (plain w.hierarchy) w n).flatMap (places w) =
      (attributesOf (plain w'.hierarchy) w' m).flatMap (places w') := by
    rw [← hattributes]
    refine List.flatMap_congr fun e he => ?_
    rw [places, places, hopened e (mem_attributesOf_iff.mp he).1]
  intro position
  rw [holder?, holder?, hplaces, hchildren]

end AttributeDump

/-- Dumps of attributes see the names of types, what is told of the attributes, and what holds the
children. -/
theorem AttributeDump.agrees_usual (indent : Nat) (w w' : World) (v v' : View) :
    (usual indent w v).Agrees (usual indent w' v') (Same w w') (Alike w w' v v') where
  toEchoes := ⟨rfl, rfl, rfl⟩
  replacement _ _ _ := rfl
  replacement' _ _ _ := rfl
  refusal h := h.2.1
  assertions h := by
    funext cursor
    calc assertions (AttributeDump.plain w.hierarchy) w _ cursor
        = _ := assertions_eq_tales w _ cursor
      _ = _ := by rw [h.2.2]
      _ = assertions (AttributeDump.plain w'.hierarchy) w' _ cursor := (assertions_eq_tales w' _ cursor).symm
  typeExpression h := h.1
  opening h := by simp only [usual, style, Transcript.plain, h.1]
  holders h i := by
    simp only [usual, style]
    rw [lookup_holders, lookup_holders, h i]

/-! ## Matches of the nodes that are shown -/

namespace Transcript

variable {base : List Nat} {t : Tree} {piece : Piece}

/-- A statement that asserts something. -/
def IsAssertion (text : String) : Prop := ∃ rest, text = "assert " ++ rest

/-- A style that replaces nothing, and adds nothing but assertions to the matches. -/
structure Style.OnlyAsserts (s : Style) : Prop where
  replacement : ∀ parent child cursor, s.replacement parent child cursor = none
  assertions : ∀ {n cursor text}, text ∈ s.assertions n cursor → IsAssertion text
  identity : ∀ cursor access reference, IsAssertion (s.identity cursor access reference)

mutual

/-- Where nothing is replaced, the matches in a block are those of the nodes below that are shown, in their
order. -/
theorem places_matches_piecesIn (hs : s.OnlyAsserts) (limit : DumpLimit) (base : List Nat) (t : Tree) :
    ((piecesIn s limit base t).filter Piece.isMatch).map Piece.place =
      (t.places limit).tail.map (base ++ ·) := by
  obtain ⟨n, ts⟩ := t
  rw [piecesIn, Tree.places, List.filter_append, filter_isMatch_map (by decide), List.nil_append,
    List.tail_cons]
  split
  · rfl
  · exact places_matches_piecesOf hs limit base n _ _ 0 ts

theorem places_matches_piecesOf (hs : s.OnlyAsserts) (limit : DumpLimit) (base : List Nat) (parent : Node)
    (holders : List (Int × String)) (asserted : Bool) (position : Nat) (ts : List Tree) :
    ((piecesOf s limit base parent holders asserted position ts).filter Piece.isMatch).map Piece.place =
      (Tree.placesOf limit.below position ts).map (base ++ ·) := by
  cases ts with
  | nil => rfl
  | cons t ts =>
      have hinside := places_matches_piecesIn hs limit.below (base ++ [position]) t
      have hrest := places_matches_piecesOf hs limit base parent holders asserted (position + 1) ts
      have hlevel : (base ++ [position] ++ ·) = fun p => base ++ position :: p :=
        funext fun p => (List.append_cons base position p).symm
      rw [piecesOf, hs.replacement]
      dsimp only
      rw [gapPieces, List.filter_append, List.filter_append, filter_isMatch_map (by decide),
        List.nil_append, filter_isMatch_childPieces, List.map_append, List.map_cons, place_matchPiece,
        hinside, hrest, Tree.placesOf, t.places_eq_cons, List.map_append, List.map_map, List.map_cons,
        List.tail_cons, hlevel]
      rfl

end

theorem places_matches_pieces (hs : s.OnlyAsserts) (limit : DumpLimit) (t : Tree) :
    ((pieces s limit t).filter Piece.isMatch).map Piece.place = t.places limit := by
  rw [pieces, List.filter_cons_of_pos rfl, filter_isMatch_orPass, List.map_cons,
    places_matches_piecesIn hs, t.places_eq_cons, List.tail_cons]
  simp

/-- The text matches a node at a place, and says whether the children of the node are ignored. -/
def Matches (s : Style) (ignoring : Bool) (place : List Nat) (n : Node) (text : String) : Prop :=
  match place.length with
  | 0 => text = openingText s n ignoring
  | depth + 1 =>
    text = headerText s depth n ignoring ∨ ∃ bound, text = callText s depth n ignoring bound

/-- A match is that of the node at its place, and the children are ignored where the limit is reached. -/
theorem matches_of_mem (h : piece ∈ pieces s limit t) (hmatch : piece.isMatch = true) :
    ∃ u, t.at? piece.place = some u ∧
      Matches s (decide (limit = some (piece.place.length : Int))) piece.place u.root piece.text := by
  rcases mem_pieces_cases h with rfl | rfl | h
  · have hexhausted : limit.isExhausted = decide (limit = some ((0 : Nat) : Int)) := by
      rw [Bool.eq_iff_iff, DumpLimit.isExhausted_iff, decide_eq_true_iff]
    exact ⟨t, t.at?_nil, congrArg (openingText s t.root) hexhausted⟩
  · cases hmatch
  · cases h with
    | header hq hu =>
        subst hq
        refine ⟨_, hu, ?_⟩
        rw [Matches, List.length_append, List.length_singleton]
        exact .inl rfl
    | call bound hq hu =>
        subst hq
        refine ⟨_, hu, ?_⟩
        rw [Matches, List.length_append, List.length_singleton]
        exact .inr ⟨bound, rfl⟩
    | _ => cases hmatch

/-- What matches no node is an empty line, asserts something, or fills a block that would be empty. -/
theorem text_of_mem_of_not_isMatch (hs : s.OnlyAsserts) (h : piece ∈ pieces s limit t)
    (hmatch : piece.isMatch = false) :
    piece.text = "" ∨ piece.text = "pass" ∨ IsAssertion piece.text := by
  rcases mem_pieces_cases h with rfl | rfl | h
  · cases hmatch
  · exact .inr (.inl rfl)
  · cases h with
    | header | call => cases hmatch
    | assertion htext => exact .inr (.inr (hs.assertions htext))
    | replacement i htext =>
        rw [hs.replacement] at htext
        cases htext
    | identity i access _ => exact .inr (.inr (hs.identity ..))
    | gap place i => exact .inl rfl

/-- The text is put together from pieces that match the nodes down to a depth, each of them once and in the
order of the walk, and say at those of this depth, and at no others, that their children are ignored.  The
other pieces match nothing. -/
def Exactly (s : Style) (t : Tree) (depth : Nat) (text : String) : Prop :=
  let pieces := pieces s (some (depth : Int)) t
  let places := (pieces.filter Piece.isMatch).map Piece.place
  text = Text.join (pieces.flatMap (Piece.printed s.indent)) ∧
    (∀ p, p ∈ places ↔ (t.at? p).isSome ∧ p.length ≤ depth) ∧ places.Pairwise (· < ·) ∧
    ∀ piece ∈ pieces,
      (piece.isMatch = true → ∃ u, t.at? piece.place = some u ∧
        Matches s (decide (piece.place.length = depth)) piece.place u.root piece.text) ∧
      (piece.isMatch = false → piece.text = "" ∨ piece.text = "pass" ∨ IsAssertion piece.text)

theorem exactly_render (hs : s.OnlyAsserts) (t : Tree) (depth : Nat) :
    Exactly s t depth (render s (some (depth : Int)) t) := by
  have hshows : ∀ k : Nat, DumpLimit.Shows (some (depth : Int)) k ↔ k ≤ depth := by
    intro k
    constructor
    · intro h
      exact Int.ofNat_le.mp (h depth rfl (Int.natCast_nonneg depth))
    · rintro hk d hd -
      obtain rfl := Option.some.inj hd
      exact Int.ofNat_le.mpr hk
  refine ⟨?_, fun p => ?_, ?_, fun piece hpiece => ⟨fun hmatch => ?_, fun hmatch => ?_⟩⟩
  · rw [render, lines_eq_flatMap]
  · rw [places_matches_pieces hs, Tree.mem_places, hshows]
  · rw [places_matches_pieces hs]
    exact Tree.pairwise_places t _
  · obtain ⟨u, hu, hsays⟩ := matches_of_mem hpiece hmatch
    refine ⟨u, hu, ?_⟩
    have hsame : decide ((some (depth : Int) : DumpLimit) = some (piece.place.length : Int)) =
        decide (piece.place.length = depth) := by
      rw [decide_eq_decide, Option.some_inj]
      omega
    rwa [hsame] at hsays
  · exact text_of_mem_of_not_isMatch hs hpiece hmatch

theorem onlyAsserts_plain (indent : Nat) (typeName : Node → String) :
    (plain indent typeName).OnlyAsserts where
  replacement _ _ _ := rfl
  assertions := nofun
  identity cursor access reference :=
    ⟨cursor ++ ".node." ++ access ++ " is " ++ reference, by
      simp only [plain, plainIdentity, String.append_assoc]⟩

end Transcript

/-- Dumps of attributes replace nothing, and assert what is told of the attributes and what holds the
children. -/
theorem AttributeDump.onlyAsserts_usual (indent : Nat) (w : World) (v : View) :
    (usual indent w v).OnlyAsserts where
  replacement _ _ _ := rfl
  assertions {n cursor text} h := by
    have hassertions : text ∈ assertions (AttributeDump.plain w.hierarchy) w n cursor := h
    rw [assertions_eq] at hassertions
    obtain ⟨e, -, rfl⟩ := List.mem_map.mp hassertions
    exact ⟨_, by simp only [plainAssertion, String.append_assoc]; rfl⟩
  identity := (onlyAsserts_plain indent w.typeNameOf).identity

/-! ## Dumps of finite trees -/

namespace Tree

/-- The limit cuts what is printed of a tree off cleanly.  A negative limit, or one that is greater than the
height of the tree, is as good as none.  With any other, the text matches the nodes down to that depth, each
of them once, and says that the children are ignored at the nodes of that depth and at no others; there is
such a text unless a node that is shown refuses itself. -/
structure CutCleanly (render? : DumpLimit → Except Failure String) (s : Style) (t : Tree) : Prop where
  unreached : ∀ (height : Nat) (d : Int), t.Within height → (d < 0 ∨ (height : Int) < d) →
    render? (some d) = render? none
  exactly : ∀ depth : Nat, (∀ n, t.Shown (some (depth : Int)) n → s.refusal n = none) →
    ∃ text, render? (some (depth : Int)) = .ok text ∧ Exactly s t depth text

theorem cutCleanly {render? : DumpLimit → Except Failure String} (hs : s.OnlyAsserts) {t : Tree}
    (h : ∀ limit, render? limit = t.dump s limit) : CutCleanly render? s t where
  unreached height d hheight hd := by
    have hshows : DumpLimit.Shows (some d) (height + 1) := by
      rintro e he hpos
      obtain rfl := Option.some.inj he
      omega
    rw [h, h, dump_of_within s hheight hshows]
  exactly depth hrefusal := ⟨_, by rw [h, dump_eq_render hrefusal], exactly_render hs t depth⟩

/-- The limit cuts off dumps of structure and dumps of attributes cleanly.  Nothing is refused to the former;
to the latter, the tables that cannot be read.

Two trees that look the same down to a depth have the same dump with this limit: for structure, the names of
types and the numbers of children count, for attributes also what is told of them and which of them hold the
children.  At nodes of that depth, the children do not count.  Nodes with the same values look the same:
`AttributeDump.same_of_sameValues` and `AttributeDump.alike_of_sameValues`.

The height that views give to trees is no restriction for the usual adapters, `Adapter.isBounded_view`. -/
theorem dump_truncated {a : Adapter} {w : World} (ha : (a.view w).IsBounded) {t : Tree}
    (ht : t.ShownBy (a.view w)) (serial indent : Nat) :
    let structure? (a : Adapter) := (Printer.transcript serial a fun w => plain indent w.typeNameOf).render
    let attributes? (a : Adapter) := (Printer.hookedAttributes serial a { indent := indent } {}).render
    CutCleanly (structure? a w t.root) (plain indent w.typeNameOf) t ∧
    CutCleanly (attributes? a w t.root) (AttributeDump.usual indent w (a.view w)) t ∧
    ∀ (a' : Adapter) (w' : World), (a'.view w').IsBounded → ∀ u : Tree, u.ShownBy (a'.view w') →
      ∀ depth : Nat,
      (t.SameTo (fun n m => w.typeNameOf n = w'.typeNameOf m) (fun _ _ => True) depth u →
        structure? a w t.root (some (depth : Int)) = structure? a' w' u.root (some (depth : Int))) ∧
      (t.SameTo (AttributeDump.Same w w') (AttributeDump.Alike w w' (a.view w) (a'.view w')) depth u →
        attributes? a w t.root (some (depth : Int)) = attributes? a' w' u.root (some (depth : Int))) := by
  intro structure? attributes?
  -- Both printers dump the tree itself.
  have hstructure : ∀ {a : Adapter} {w : World} {t : Tree}, (a.view w).IsBounded → t.ShownBy (a.view w) →
      ∀ limit, structure? a w t.root limit = t.dump (plain indent w.typeNameOf) limit :=
    fun ha ht limit => ht.render_dump (ha _ ht) _ limit serial
  have hattributes : ∀ {a : Adapter} {w : World} {t : Tree}, (a.view w).IsBounded → t.ShownBy (a.view w) →
      ∀ limit, attributes? a w t.root limit = t.dump (AttributeDump.usual indent w (a.view w)) limit :=
    fun ha ht limit => ht.render_attributes_dump (ha _ ht) limit serial indent
  refine ⟨cutCleanly (onlyAsserts_plain indent w.typeNameOf) (hstructure ha ht),
    cutCleanly (AttributeDump.onlyAsserts_usual indent w _) (hattributes ha ht), ?_⟩
  intro a' w' ha' u hu depth
  constructor
  · intro hsame
    rw [hstructure ha ht, hstructure ha' hu]
    exact dump_congr (agrees_plain indent w w') hsame
  · intro hsame
    rw [hattributes ha ht, hattributes ha' hu]
    exact dump_congr (AttributeDump.agrees_usual indent w w' _ _) hsame

/-- A pair of a pair of a leaf, which has a label; the outer pair has an attribute for the inner one. -/
def chained (label : Int) : World where
  hierarchy := Sample.hierarchy
  forest := ⟨#[{ type := Sample.pair, children := [.object 1], attributes := .ofEntries [("first", .node 1)] },
    { type := Sample.pair, children := [.object 2] },
    { type := Sample.leaf, attributes := .ofEntries [("label", .int label)] }]⟩
  registries := []

def chainedTree : Tree := .branch (.object 0) [.branch (.object 1) [.branch (.object 2) []]]

theorem shownBy_chainedTree (label : Int) :
    chainedTree.ShownBy (Sample.adapter.view (chained label)) := by
  have hleaf : (branch (.object 2) []).ShownBy (Sample.adapter.view (chained label)) := .branch rfl nofun
  have hinner : (branch (.object 1) [.branch (.object 2) []]).ShownBy
      (Sample.adapter.view (chained label)) :=
    .branch rfl (List.forall_mem_singleton.mpr hleaf)
  exact .branch rfl (List.forall_mem_singleton.mpr hinner)

/-- Whatever the label of the leaf, the pairs have the same values. -/
theorem sameValues_chained (label label' : Int) {n : Node} (hn : n = .object 0 ∨ n = .object 1) :
    AttributeDump.SameValues (chained label) (chained label') n n := by
  rcases hn with rfl | rfl
  · exact ⟨rfl, rfl, fun _ => .rfl, fun _ => iff_of_false (fun h => nomatch h.1) fun h => nomatch h.1⟩
  · exact ⟨rfl, rfl, fun _ => .rfl, fun _ => iff_of_false (fun h => nomatch h.1) fun h => nomatch h.1⟩

theorem sameTo_chainedTree (label label' : Int) :
    chainedTree.SameTo (AttributeDump.Same (chained label) (chained label'))
      (AttributeDump.Alike (chained label) (chained label') (Sample.adapter.view (chained label))
        (Sample.adapter.view (chained label'))) 1 chainedTree := by
  have houter := sameValues_chained label label' (.inl rfl)
  have hinner := sameValues_chained label label' (.inr rfl)
  have hopened : ∀ e ∈ (AttributeDump.gathered (chained label) (.object 0)).entries,
      (chained label).opened e.2 = (chained label').opened e.2 := by
    intro e he
    obtain rfl := List.mem_singleton.mp he
    rfl
  exact ⟨AttributeDump.same_of_sameValues houter rfl, AttributeDump.alike_of_sameValues houter rfl hopened,
    .cons (AttributeDump.same_of_sameValues hinner rfl) .nil⟩

theorem attributesOf_chained (label : Int) :
    AttributeDump.attributesOf (AttributeDump.plain Sample.hierarchy) (chained label) (.object 0) =
      [("first", .node 1)] := List.mergeSort_singleton _

/-- The style of the dumps of attributes of the chained pairs. -/
def chainedStyle (label : Int) : Style :=
  AttributeDump.usual 4 (chained label) (Sample.adapter.view (chained label))

/-- The pieces of the dump that shows the inner pair and not the leaf. -/
theorem pieces_chainedTree : pieces (chainedStyle 7) (some 1) chainedTree =
    [⟨.header, [], "with match_node(node, Pair) as it:"⟩, ⟨.gap, [0], ""⟩,
      ⟨.call, [0], "it1 = it.child(Pair, ignore_children=True)"⟩,
      ⟨.identity, [0], "assert it.node.first is it1"⟩] := by
  have houter : (chainedStyle 7).assertions (.object 0) ((chainedStyle 7).cursorName 0) = [] := by
    show AttributeDump.assertions (AttributeDump.plain Sample.hierarchy) (chained 7) (.object 0) "it" = []
    rw [AttributeDump.assertions, attributesOf_chained]
    rfl
  have hinner : (chainedStyle 7).assertions (.object 1) ((chainedStyle 7).cursorName 1) = [] := by
    have hnone : AttributeDump.attributesOf (AttributeDump.plain Sample.hierarchy) (chained 7) (.object 1) =
      [] := List.mergeSort_nil
    show AttributeDump.assertions (AttributeDump.plain Sample.hierarchy) (chained 7) (.object 1) "it1" = []
    rw [AttributeDump.assertions, hnone]
    rfl
  have hholders : (chainedStyle 7).holders (.object 0) = [(0, "first")] := by
    show AttributeDump.holders (AttributeDump.plain Sample.hierarchy) (chained 7) [.object 1] (.object 0) = _
    rw [AttributeDump.holders, attributesOf_chained]
    rfl
  have hreplacement : (chainedStyle 7).replacement (.object 0) (.object 1) ((chainedStyle 7).cursorName 0) =
      none := rfl
  simp only [chainedTree, pieces, piecesIn, piecesOf, List.length_nil, List.length_append,
    List.length_singleton, List.nil_append, root, houter, hinner, hholders, hreplacement]
  decide

/-- The label of the leaf, which is two levels down, does not count in a dump that goes down one level. -/
theorem dump_truncated_chained :
    (∀ label, (Sample.adapter.view (chained label)).IsBounded) ∧
    (∀ label, chainedTree.ShownBy (Sample.adapter.view (chained label))) ∧ chainedTree.Within 2 ∧
    (∀ n, chainedTree.Shown (some 1) n → (chained 7).tableRefusal n = none) ∧
    chainedTree.SameTo (AttributeDump.Same (chained 7) (chained 8))
      (AttributeDump.Alike (chained 7) (chained 8) (Sample.adapter.view (chained 7))
        (Sample.adapter.view (chained 8))) 1 chainedTree ∧
    let printed label := (Printer.hookedAttributes 0 Sample.adapter { indent := 4 } {}).render
      (chained label) (.object 0)
    printed 7 (some 1) = .ok (Text.join ["with match_node(node, Pair) as it:", "",
      "    it1 = it.child(Pair, ignore_children=True)", "    assert it.node.first is it1"]) ∧
    printed 8 (some 1) = printed 7 (some 1) ∧ printed 7 (some 3) = printed 7 none := by
  have hbounded : ∀ label, (Sample.adapter.view (chained label)).IsBounded :=
    fun label => Adapter.isBounded_view (.downward "sample" {}) (chained label)
  have hwithin : chainedTree.Within 2 := by
    rintro t ht
    obtain rfl := List.mem_singleton.mp ht
    rintro t ht
    obtain rfl := List.mem_singleton.mp ht
    rfl
  have htable : ∀ n, chainedTree.Shown (some 1) n → (chained 7).tableRefusal n = none := by
    intro n hn
    cases hn with
    | root => rfl
    | child _ ht hn =>
        obtain rfl := List.mem_singleton.mp ht
        cases hn with
        | root => rfl
        | child hlimit _ _ => cases hlimit
  obtain ⟨-, hcut, hcongr⟩ := dump_truncated (hbounded 7) (shownBy_chainedTree 7) 0 4
  obtain ⟨text, hrender, htext, -⟩ := hcut.exactly 1 htable
  obtain ⟨-, hsame⟩ := hcongr Sample.adapter (chained 8) (hbounded 8) chainedTree (shownBy_chainedTree 8) 1
  refine ⟨hbounded, shownBy_chainedTree, hwithin, htable, sameTo_chainedTree 7 8, ?_,
    (hsame (sameTo_chainedTree 7 8)).symm, hcut.unreached 2 3 hwithin (.inr (by decide))⟩
  have hpieces := congrArg (List.flatMap (Piece.printed 4)) pieces_chainedTree
  refine hrender.trans (congrArg Except.ok (htext.trans ?_))
  exact (congrArg Text.join hpieces).trans (by decide)

end Tree

end TreeShape
