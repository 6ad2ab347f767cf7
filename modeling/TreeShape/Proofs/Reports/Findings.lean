import TreeShape.Proofs.Reports.Chains

/-!
# Reports are true of the tree

In a tree that stays as it is, whatever a deed reports by itself can be seen in the tree.  A child that
a block has refused is named by a position at which its parent has it, and this is the position that the
block has taken unless the same node stands there before.  A missing child is missing.  Children that
are left are counted against those that the run has taken.

## Strategy

`Deed.fault` says what was the case in the session when a deed failed; each entry is turned into what is
the case in the tree, `Finds`.  Three facts do this: cursors have seen the children that there are
(`linked_of_frozen`), the path of a cursor ends in its node (`path_of_cursor`), and the count of a
cursor is what the run has taken of it.

Labels need more.  A label is looked up anew, in the children that the parent tells when the block is
opened, while the position comes from the cursor above, which has counted along the children that it saw
when it was made.  `labels_of_child` shows that both are the same children, and `View.exists_position`
that looking up a child finds its first place among them.
-/

namespace TreeShape

open Run

/-- A match that is taken to have nodes above it is started at a child of the last of them. -/
def Deed.IsPlaced (w : World) (d : Deed) : Prop :=
  ∀ c above n, d.Starts c above n → ∀ p, above.getLast? = some p → n ∈ (c.view w).children p

namespace Moment

/-! ## What is reported -/

/-- The label under which a run finds the node that a block has got to.  The position of a child is one
where its parent has this node; it is the one that the block has taken, unless the node stands before
it, too. -/
inductive Labels (w : World) (ds : List Deed) (b : BlockId) (block : Block) (n : Node) :
    Label → Prop
  | root : block.parentPath = [] → Labels w ds b block n .root
  | child {p : Node} {i : Nat} : block.parentPath.getLast? = some p →
      ((block.config.view w).children p)[i]? = some n →
      (∀ c, block.parentCursor = some c → ∃ k,
        (Deed.enter b).positions c (sessionAfter w ds) = [k] ∧
        ((block.config.view w).children p)[k]? = some n ∧
        ((∀ j < k, ((block.config.view w).children p)[j]? ≠ some n) → i = k)) →
      Labels w ds b block n (.child (some i))

/-- What is the case where a deed reports something at the end of a path. -/
inductive Finds (w : World) (ds : List Deed) : Deed → Config → List Node → Mismatch → Prop
  /-- The node that a block has got to is no instance of the expected type. -/
  | wrongType {b : BlockId} {block : Block} {n : Node} {label : Label} :
      (sessionAfter w ds).block? b = some block → Labels w ds b block n label →
      (block.config.view w).isInstance n block.expected.type = false →
      Finds w ds (.enter b) block.config block.parentPath
        ((block.config.view w).wrongType label block.expected.type n)
  /-- Its parent is another node than the last one of the path. -/
  | wrongParent {b : BlockId} {block : Block} {n p : Node} {label : Label} :
      (sessionAfter w ds).block? b = some block → Labels w ds b block n label →
      block.parentPath.getLast? = some p → (block.config.view w).parent n ≠ p →
      Finds w ds (.enter b) block.config block.parentPath
        ((block.config.view w).wrongParent label p n)
  /-- The node at the path has no child at the position. -/
  | missingChild {d : Deed} {c : CursorId} {cursor : Cursor} {k : Nat} :
      d.Uses (sessionAfter w ds) c → (sessionAfter w ds).cursor? c = some cursor →
      cursor.path.getLast? = some cursor.node →
      ((cursor.config.view w).children cursor.node).length ≤ k →
      Finds w ds d cursor.config cursor.path (.missingChild k)
  /-- The run has taken fewer children of the node at the path than there are. -/
  | childCount {b : BlockId} {block : Block} {c : CursorId} {cursor : Cursor} {taken : Nat} :
      (sessionAfter w ds).block? b = some block → block.cursor = some c →
      (sessionAfter w ds).cursor? c = some cursor → cursor.path.getLast? = some cursor.node →
      (Session.positions c (start w).session ds).length = taken →
      taken < ((cursor.config.view w).children cursor.node).length →
      Finds w ds (.exit b none) cursor.config cursor.path
        (.childCount taken ((cursor.config.view w).children cursor.node).length)
  /-- The report is that of an assertion, which is not the run's own. -/
  | explained {b : BlockId} {block : Block} {cursor : Cursor} {failure : Option Failure}
      {f : Failure} : (sessionAfter w ds).Owns b block cursor → block.Meets w failure f →
      Finds w ds (.exit b failure) cursor.config cursor.path (.explained f.asCause)

/-! ## Why it is the case -/

variable {w : World} {ds : List Deed}

/-- Cursors have seen the children that there are. -/
theorem linked_of_frozen (hfrozen : ∀ d ∈ ds, d.IsFrozen) (hplaced : ∀ d ∈ ds, d.IsPlaced w) :
    (sessionAfter w ds).Linked (fun c n children => (c.view w).ask n = .ok children)
      fun c above n => ∀ p, above.getLast? = some p → n ∈ (c.view w).children p := by
  have hstart : (start w).session.Linked (fun c n children => (c.view w).ask n = .ok children)
      fun c above n => ∀ p, above.getLast? = some p → n ∈ (c.view w).children p := by
    constructor <;> intros <;> simp_all [start, Session.cursor?, Session.block?]
  refine linked_afterAll hstart (Session.sound_fresh w) hplaced ?_
  intro es hes c n children h
  rwa [world_afterAll fun d hd => hfrozen d (hes.subset hd)] at h

theorem path_of_cursor {c : CursorId} {cursor : Cursor}
    (hc : (sessionAfter w ds).cursor? c = some cursor) :
    cursor.path.getLast? = some cursor.node := by
  have hsound := sound_sessionAfter w ds
  obtain ⟨b, block, hb, hcur⟩ := hsound.owner hc
  obtain ⟨cursor', hcursor', howns⟩ := hsound.owned hb hcur
  rw [hc] at hcursor'
  cases hcursor'
  rw [howns.path, ← howns.node, List.getLast?_concat]

section

variable {b : BlockId} {block : Block} {n p : Node} {children : List Node}

/-- A block without a cursor above it was started at a child of the last node of its path. -/
theorem labels_of_root (hfrozen : ∀ d ∈ ds, d.IsFrozen) (hplaced : ∀ d ∈ ds, d.IsPlaced w)
    (hb : (sessionAfter w ds).block? b = some block) (hroot : block.parentCursor = none)
    (hp : block.parentPath.getLast? = some p) (hask : (block.config.view w).ask p = .ok children) :
    Labels w ds b block block.node (.child (View.position? children block.node)) := by
  have hchildren := View.children_of_ask hask
  have hmem : block.node ∈ children := hchildren ▸ (linked_of_frozen hfrozen hplaced).root hb hroot p hp
  obtain ⟨k, hk⟩ := List.getElem?_of_mem hmem
  obtain ⟨i, hposition, hi, -⟩ := View.exists_position hk
  rw [← hchildren] at hi
  rw [hposition]
  exact .child hp hi fun c hparent => absurd (hroot.symm.trans hparent) nofun

/-- A block with a cursor above it takes a child from among those that the cursor has seen, and these are
the children that are told now. -/
theorem labels_of_child (hfrozen : ∀ d ∈ ds, d.IsFrozen) (hplaced : ∀ d ∈ ds, d.IsPlaced w)
    {c : CursorId} {cursor : Cursor} (hb : (sessionAfter w ds).block? b = some block)
    (hc : block.cursor = none) (hparent : block.parentCursor = some c)
    (hcursor : (sessionAfter w ds).cursor? c = some cursor) (hu : cursor.IsUsable)
    (hn : cursor.children[cursor.next]? = some n) (hp : block.parentPath.getLast? = some p)
    (hask : (block.config.view w).ask p = .ok children) :
    Labels w ds b block n (.child (View.position? children n)) := by
  obtain ⟨cursor', hcursor', hhangs⟩ := (sound_sessionAfter w ds).parent hb hparent
  rw [hcursor] at hcursor'
  cases hcursor'
  have hlast := path_of_cursor hcursor
  rw [← hhangs.path, hp] at hlast
  cases hlast
  -- The cursor was told its children when it was made, and the world has not changed since.
  have htold := (linked_of_frozen hfrozen hplaced).told hcursor
  rw [← hhangs.config, hask] at htold
  cases htold
  have hchildren := View.children_of_ask hask
  obtain ⟨i, hposition, hi, hfirst⟩ := View.exists_position hn
  rw [hposition]
  have hreaches : b.reaches (sessionAfter w ds) c = true := by
    have htake := BlockId.takeNode_of_takes hb (.child hparent hcursor hu hn)
    simp [BlockId.reaches, hb, hc, hparent, htake, Except.isOk, Except.toBool]
  refine .child hp (hchildren ▸ hi) fun d hd => ?_
  rw [hparent] at hd
  cases hd
  refine ⟨cursor.next, ?_, hchildren ▸ hn, hchildren ▸ hfirst⟩
  rw [Deed.positions, if_pos hreaches, Session.nextOf_of_cursor hcursor]

theorem labels_of_takes (hfrozen : ∀ d ∈ ds, d.IsFrozen) (hplaced : ∀ d ∈ ds, d.IsPlaced w)
    {taken : Session} {label : Label} (hb : (sessionAfter w ds).block? b = some block)
    (hc : block.cursor = none) (ht : BlockId.Takes (sessionAfter w ds) b block n taken)
    (hl : labelFor (block.config.view w) block.parentPath n = .ok label) :
    Labels w ds b block n label := by
  rcases labelFor_eq_ok hl with ⟨hpath, rfl⟩ | ⟨p, children, hp, hask, rfl⟩
  · exact .root hpath
  · cases ht with
    | root hroot => exact labels_of_root hfrozen hplaced hb hroot hp hask
    | child hparent hcursor hu hn =>
        exact labels_of_child hfrozen hplaced hb hc hparent hcursor hu hn hp hask

end

/-- What a deed reports is the case. -/
theorem finds_of_fault (hfrozen : ∀ d ∈ ds, d.IsFrozen) (hplaced : ∀ d ∈ ds, d.IsPlaced w)
    {d : Deed} {place : Location} {reason : Mismatch}
    (h : (sessionAfter w ds).Fault d (.mismatch place reason)) :
    d.Foreign (sessionAfter w ds) (.mismatch place reason) ∨
      ∃ c path, place.names = Location.namesOf c w path ∧ Finds w ds d c path reason := by
  have hlinked := linked_of_frozen hfrozen hplaced
  have hsound := sound_sessionAfter w ds
  have hworld := world_sessionAfter w hfrozen
  -- The world being frozen, what the cursors were told of children is still so.
  have hchildren : ∀ {c cursor}, (sessionAfter w ds).cursor? c = some cursor →
      (cursor.config.view w).children cursor.node = cursor.children :=
    fun hc => View.children_of_ask (hlinked.told hc)
  have hnames : ∀ {c path}, Location.of c (sessionAfter w ds).world path = .ok place →
      place.names = Location.namesOf c w path := fun hplace => hworld ▸ Location.names_of hplace
  cases h with
  | @noChild b block c cursor _ hb hp hc hle hplace =>
      refine .inr ⟨_, _, hnames hplace, .missingChild (.enter hb hp) hc (path_of_cursor hc) ?_⟩
      rw [hchildren hc]
      exact hle
  | @farSkip c cursor count _ hc hlt hplace =>
      refine .inr ⟨_, _, hnames hplace, .missingChild (.skip c count) hc (path_of_cursor hc) ?_⟩
      rw [hchildren hc]
      omega
  | @wrongType b block n taken label _ hb hc ht hl htype hplace =>
      rw [hworld] at hl htype ⊢
      exact .inr ⟨_, _, hnames hplace, .wrongType hb (labels_of_takes hfrozen hplaced hb hc ht hl)
        (View.isInstance_of_askType htype)⟩
  | @wrongParent b block n p taken label _ hb hc ht hl hp hlink hplace =>
      rw [hworld] at hl hlink ⊢
      exact .inr ⟨_, _, hnames hplace, .wrongParent hb (labels_of_takes hfrozen hplaced hb hc ht hl)
        hp (View.parent_of_isLinkedTo hlink)⟩
  | @childCount b block cursor _ howns hmatters hne hplace =>
      obtain ⟨c, hb, hcur, hc⟩ := howns
      have htaken : (Session.positions c (start w).session ds).length = cursor.next := by
        rw [positions_start, Session.nextOf_of_cursor hc, List.length_range]
      have hcounted := ((counted_sessionAfter w ds).cursor hc).1
      rw [← hchildren hc] at hne hcounted ⊢
      exact .inr ⟨_, _, hnames hplace, .childCount hb hcur hc (path_of_cursor hc) htaken (by omega)⟩
  | located howns hmeets hplace =>
      rw [hworld] at hmeets
      exact .inr ⟨_, _, hnames hplace, .explained howns hmeets⟩
  | foreign hf => exact .inl hf

end Moment

end TreeShape
