import TreeShape.Proofs.Matching.Changes

/-!
# Sessions only grow

Nothing that was made in a session is ever removed or replaced.  A cursor keeps its node and the
children that it saw, takes them in one direction only, and once its block is over it stays over.  A
block keeps what is expected of its node, and once it is open its node and its cursor, too.

This is what a body can rely on whatever it does in between, and why a block finds its own cursor again
when it is left.
-/

namespace TreeShape

/-- What stays of a cursor. -/
structure Cursor.Grows (old new : Cursor) : Prop where
  config : new.config = old.config
  path : new.path = old.path
  node : new.node = old.node
  ignoring : new.ignoring = old.ignoring
  children : new.children = old.children
  next : old.next ≤ new.next
  closed : old.closed = true → new.closed = true

/-- What stays of a block. -/
structure Block.Grows (old new : Block) : Prop where
  config : new.config = old.config
  expected : new.expected = old.expected
  parentPath : new.parentPath = old.parentPath
  parentCursor : new.parentCursor = old.parentCursor
  opened : ∀ {c}, old.cursor = some c → new.cursor = some c ∧ new.node = old.node

/-- What stays of a session. -/
structure Session.Grows (s t : Session) : Prop where
  cursor : ∀ {c old}, s.cursor? c = some old → ∃ new, t.cursor? c = some new ∧ old.Grows new
  block : ∀ {b old}, s.block? b = some old → ∃ new, t.block? b = some new ∧ old.Grows new

theorem Cursor.Grows.refl (c : Cursor) : c.Grows c := ⟨rfl, rfl, rfl, rfl, rfl, Nat.le_refl _, id⟩

theorem Cursor.Grows.trans {a b c : Cursor} (hab : a.Grows b) (hbc : b.Grows c) : a.Grows c where
  config := hbc.config.trans hab.config
  path := hbc.path.trans hab.path
  node := hbc.node.trans hab.node
  ignoring := hbc.ignoring.trans hab.ignoring
  children := hbc.children.trans hab.children
  next := Nat.le_trans hab.next hbc.next
  closed h := hbc.closed (hab.closed h)

theorem Block.Grows.refl (b : Block) : b.Grows b := ⟨rfl, rfl, rfl, rfl, fun h => ⟨h, rfl⟩⟩

theorem Block.Grows.trans {a b c : Block} (hab : a.Grows b) (hbc : b.Grows c) : a.Grows c where
  config := hbc.config.trans hab.config
  expected := hbc.expected.trans hab.expected
  parentPath := hbc.parentPath.trans hab.parentPath
  parentCursor := hbc.parentCursor.trans hab.parentCursor
  opened h := by
    obtain ⟨hb, hnode⟩ := hab.opened h
    obtain ⟨hc, hnode'⟩ := hbc.opened hb
    exact ⟨hc, hnode'.trans hnode⟩

/-- An open block stays as it is. -/
theorem Block.Grows.eq_of_cursor {old new : Block} {c : CursorId} (h : old.Grows new)
    (hc : old.cursor = some c) : new = old := by
  obtain ⟨hcursor, hnode⟩ := h.opened hc
  rcases old with ⟨_, _, _, _, _, _⟩
  rcases new with ⟨_, _, _, _, _, _⟩
  cases h.config
  cases h.expected
  cases h.parentPath
  cases h.parentCursor
  cases hnode
  cases hc
  cases hcursor
  rfl

namespace Session

variable {s t u : Session}

theorem Grows.of_silent (h : s.Silent t) : s.Grows t where
  cursor hc := ⟨_, (h.cursor? _).trans hc, .refl _⟩
  block hb := ⟨_, (h.block? _).trans hb, .refl _⟩

theorem Grows.trans (hst : s.Grows t) (htu : t.Grows u) : s.Grows u where
  cursor hc := by
    obtain ⟨_, ht, hgrows⟩ := hst.cursor hc
    obtain ⟨new, hu, hgrows'⟩ := htu.cursor ht
    exact ⟨new, hu, hgrows.trans hgrows'⟩
  block hb := by
    obtain ⟨_, ht, hgrows⟩ := hst.block hb
    obtain ⟨new, hu, hgrows'⟩ := htu.block ht
    exact ⟨new, hu, hgrows.trans hgrows'⟩

theorem grows_take {b : BlockId} {block : Block} (hb : s.block? b = some block)
    (hc : block.cursor = none) (c : CursorId) (n : Node) : s.Grows (s.take b c n) where
  cursor {d old} hd := by
    rw [cursor?_take]
    split
    · next h =>
        subst h
        rw [hd]
        exact ⟨_, rfl, rfl, rfl, rfl, rfl, rfl, Nat.le_succ _, id⟩
    · exact ⟨old, hd, .refl old⟩
  block {d old} hd := by
    rw [block?_take]
    split
    · next h =>
        subst h
        rw [hb] at hd ⊢
        cases hd
        refine ⟨_, rfl, rfl, rfl, rfl, rfl, ?_⟩
        intro c hcursor
        rw [hc] at hcursor
        cases hcursor
    · exact ⟨old, hd, .refl old⟩

theorem grows_attach {b : BlockId} {block : Block} (hb : s.block? b = some block)
    (hc : block.cursor = none)
    (hp : ∀ p, block.parentCursor = some p → ∃ cursor, s.cursor? p = some cursor ∧ cursor.IsUsable)
    (children : List Node) : s.Grows (s.attach b block block.node children) where
  cursor {d old} hd := by
    rw [cursor?_attach s b block block.node ?_, if_neg (ne_freshCursor hd), hd]
    · exact ⟨_, rfl, rfl, rfl, rfl, rfl, rfl, Nat.le_refl _, id⟩
    · intro p hparent
      obtain ⟨cursor, hcursor, -⟩ := hp p hparent
      exact ne_freshCursor hcursor
  block {d old} hd := by
    rw [block?_attach]
    split
    · next h =>
        subst h
        rw [hb] at hd ⊢
        cases hd
        refine ⟨_, rfl, rfl, rfl, rfl, rfl, ?_⟩
        intro c hcursor
        rw [hc] at hcursor
        cases hcursor
    · exact ⟨old, hd, .refl old⟩

theorem grows_release (s : Session) (c : CursorId) (parent : Option CursorId) :
    s.Grows (s.release c parent) where
  cursor {d old} hd := by
    rw [cursor?_release, hd]
    exact ⟨_, rfl, rfl, rfl, rfl, rfl, rfl, Nat.le_refl _, fun h => by simp [h]⟩
  block {d old} hd := ⟨old, (block?_release s c parent d).trans hd, .refl old⟩

theorem grows_addBlock (s : Session) (new : Block) : s.Grows (s.addBlock new) where
  cursor {d old} hd := ⟨old, hd, .refl old⟩
  block {d old} hd := by
    rw [block?_addBlock, if_neg (ne_freshBlock hd)]
    exact ⟨old, hd, .refl old⟩

theorem grows_advance {c : CursorId} {cursor : Cursor} (hc : s.cursor? c = some cursor)
    (count : Nat) :
    s.Grows (s.modifyCursor c fun old => { old with next := cursor.next + count }) where
  cursor {d old} hd := by
    rw [cursor?_modifyCursor]
    split
    · next h =>
        subst h
        rw [hc] at hd ⊢
        cases hd
        exact ⟨_, rfl, rfl, rfl, rfl, rfl, rfl, Nat.le_add_right _ _, id⟩
    · exact ⟨old, hd, .refl old⟩
  block {d old} hd := ⟨old, hd, .refl old⟩

theorem Change.grows (h : s.Change t) : s.Grows t := by
  cases h with
  | silent h => exact .of_silent h
  | take hb hc _ _ _ _ => exact grows_take hb hc _ _
  | attach hb hc hp _ => exact grows_attach hb hc hp _
  | release => exact grows_release ..
  | rootBlock => exact grows_addBlock ..
  | childBlock => exact grows_addBlock ..
  | advance hc _ _ _ => exact grows_advance hc _

instance : IsStable Grows where
  silent := .of_silent
  trans := .trans
  change := Change.grows

/-- Matching leaves the world as it is. -/
theorem Change.world (h : s.Change t) : t.world = s.world := by
  cases h with
  | silent h => exact h.world
  | attach => exact world_attach ..
  | release => exact world_release ..
  | _ => rfl

instance : IsStable fun s t => t.world = s.world where
  silent h := h.world
  trans hst htu := htu.trans hst
  change := Change.world

theorem Changes.grows (h : s.Changes t) : s.Grows t := by
  induction h with
  | refl => exact IsCarried.refl s
  | tail _ hchange ih => exact ih.trans hchange.grows

theorem Changes.world (h : s.Changes t) : t.world = s.world := by
  induction h with
  | refl => rfl
  | tail _ hchange ih => exact hchange.world.trans ih

/-- What was there and still is there has grown. -/
theorem Grows.cursor_of_both {c : CursorId} {old new : Cursor} (h : s.Grows t)
    (hold : s.cursor? c = some old) (hnew : t.cursor? c = some new) : old.Grows new := by
  obtain ⟨later, hlater, hgrows⟩ := h.cursor hold
  rw [hnew] at hlater
  cases hlater
  exact hgrows

theorem Grows.block_of_both {b : BlockId} {old new : Block} (h : s.Grows t)
    (hold : s.block? b = some old) (hnew : t.block? b = some new) : old.Grows new := by
  obtain ⟨later, hlater, hgrows⟩ := h.block hold
  rw [hnew] at hlater
  cases hlater
  exact hgrows

theorem Grows.block_eq {b : BlockId} {block : Block} {c : CursorId} (h : s.Grows t)
    (hb : s.block? b = some block) (hc : block.cursor = some c) : t.block? b = some block := by
  obtain ⟨new, hnew, hgrows⟩ := h.block hb
  rw [hnew, hgrows.eq_of_cursor hc]

end Session

end TreeShape
