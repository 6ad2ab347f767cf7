import TreeShape.Proofs.Matching.Growth

/-!
# What cursors and blocks have to do with each other

Every cursor belongs to exactly one block, and stands at its block's node; a block made by a cursor goes
on from that cursor's path, and its own cursor is made later than that cursor.  `Session.Sound` says
this of a session, and that nothing else is there.

Of the changes of a session only two are of any interest.  Taking a child changes the node of a block,
but only before the block has a cursor that would stand at it.  Opening a block makes a cursor and gives
it to the block, and as no other block had the cursor, belonging stays one to one.  Everywhere else what
was there has grown (`of_grows`).

From this the path of a cursor can be read off the blocks, from its own up to the one at the root of the
match: `Session.Route`, `Sound.route`.
-/

namespace TreeShape

/-- The cursor that belongs to a block. -/
structure Block.Owns (block : Block) (cursor : Cursor) : Prop where
  config : cursor.config = block.config
  path : cursor.path = block.parentPath ++ [block.node]
  node : cursor.node = block.node
  ignoring : cursor.ignoring = block.expected.ignoring

/-- The cursor that made a block. -/
structure Block.HangsOn (block : Block) (cursor : Cursor) : Prop where
  config : block.config = cursor.config
  path : block.parentPath = cursor.path

/-- How the cursors and the blocks of a session belong together. -/
structure Session.Sound (s : Session) : Prop where
  owned : ∀ {b block c}, s.block? b = some block → block.cursor = some c →
    ∃ cursor, s.cursor? c = some cursor ∧ block.Owns cursor
  parent : ∀ {b block p}, s.block? b = some block → block.parentCursor = some p →
    ∃ cursor, s.cursor? p = some cursor ∧ block.HangsOn cursor
  owner : ∀ {c cursor}, s.cursor? c = some cursor →
    ∃ b block, s.block? b = some block ∧ block.cursor = some c
  injective : ∀ {b b' block block' c}, s.block? b = some block → s.block? b' = some block' →
    block.cursor = some c → block'.cursor = some c → b = b'
  older : ∀ {b block p c}, s.block? b = some block → block.parentCursor = some p →
    block.cursor = some c → p.index < c.index

theorem Block.Owns.grows {block block' : Block} {cursor cursor' : Cursor} {c : CursorId}
    (h : block.Owns cursor) (hb : block.Grows block') (hc : block.cursor = some c)
    (hcursor : cursor.Grows cursor') : block'.Owns cursor' := by
  rw [hb.eq_of_cursor hc]
  exact ⟨hcursor.config.trans h.config, hcursor.path.trans h.path, hcursor.node.trans h.node,
    hcursor.ignoring.trans h.ignoring⟩

theorem Block.HangsOn.grows {block block' : Block} {cursor cursor' : Cursor}
    (h : block.HangsOn cursor) (hb : block.Grows block') (hcursor : cursor.Grows cursor') :
    block'.HangsOn cursor' :=
  ⟨hb.config.trans (h.config.trans hcursor.config.symm),
    hb.parentPath.trans (h.path.trans hcursor.path.symm)⟩

namespace Session

variable {s t : Session}

theorem exists_cursor (hsize : t.cursors.size = s.cursors.size) {c : CursorId} {new : Cursor}
    (h : t.cursor? c = some new) : ∃ old, s.cursor? c = some old := by
  unfold cursor? at *
  obtain ⟨hlt, -⟩ := Array.getElem?_eq_some_iff.mp h
  exact ⟨_, Array.getElem?_eq_getElem (hsize ▸ hlt)⟩

theorem exists_block (hsize : t.blocks.size = s.blocks.size) {b : BlockId} {new : Block}
    (h : t.block? b = some new) : ∃ old, s.block? b = some old := by
  unfold block? at *
  obtain ⟨hlt, -⟩ := Array.getElem?_eq_some_iff.mp h
  exact ⟨_, Array.getElem?_eq_getElem (hsize ▸ hlt)⟩

theorem index_lt_size {c : CursorId} {cursor : Cursor} (h : s.cursor? c = some cursor) :
    c.index < s.cursors.size :=
  (Array.getElem?_eq_some_iff.mp h).1

namespace Sound

/-- Where nothing is made and no block is opened, all stays in order. -/
theorem of_grows (hs : s.Sound) (hgrows : s.Grows t)
    (hcursors : t.cursors.size = s.cursors.size) (hblocks : t.blocks.size = s.blocks.size)
    (hopen : ∀ {b old new}, s.block? b = some old → t.block? b = some new →
      new.cursor = old.cursor) : t.Sound := by
  -- Every block was there before, and was as open as it is now.
  have hback : ∀ {b new}, t.block? b = some new →
      ∃ old, s.block? b = some old ∧ old.Grows new ∧ new.cursor = old.cursor := by
    intro b new hb
    obtain ⟨old, hold⟩ := exists_block hblocks hb
    exact ⟨old, hold, hgrows.block_of_both hold hb, hopen hold hb⟩
  constructor
  case owned =>
    intro b block c hb hc
    obtain ⟨old, hold, hgrown, hcursor⟩ := hback hb
    rw [hcursor] at hc
    obtain ⟨cursor, hcur, howns⟩ := hs.owned hold hc
    obtain ⟨new, hnew, hcurGrown⟩ := hgrows.cursor hcur
    exact ⟨new, hnew, howns.grows hgrown hc hcurGrown⟩
  case parent =>
    intro b block p hb hp
    obtain ⟨old, hold, hgrown, -⟩ := hback hb
    rw [hgrown.parentCursor] at hp
    obtain ⟨cursor, hcur, hhangs⟩ := hs.parent hold hp
    obtain ⟨new, hnew, hcurGrown⟩ := hgrows.cursor hcur
    exact ⟨new, hnew, hhangs.grows hgrown hcurGrown⟩
  case owner =>
    intro c cursor hc
    obtain ⟨old, hold⟩ := exists_cursor hcursors hc
    obtain ⟨b, block, hb, hcur⟩ := hs.owner hold
    obtain ⟨new, hnew, hgrown⟩ := hgrows.block hb
    exact ⟨b, new, hnew, (hgrown.opened hcur).1⟩
  case injective =>
    intro b b' block block' c hb hb' hc hc'
    obtain ⟨old, hold, -, hcursor⟩ := hback hb
    obtain ⟨old', hold', -, hcursor'⟩ := hback hb'
    rw [hcursor] at hc
    rw [hcursor'] at hc'
    exact hs.injective hold hold' hc hc'
  case older =>
    intro b block p c hb hp hc
    obtain ⟨old, hold, hgrown, hcursor⟩ := hback hb
    rw [hgrown.parentCursor] at hp
    rw [hcursor] at hc
    exact hs.older hold hp hc

/-- A new block that is not open fits in. -/
theorem addBlock (hs : s.Sound) {new : Block} (hnew : new.cursor = none)
    (hparent : ∀ p, new.parentCursor = some p →
      ∃ cursor, s.cursor? p = some cursor ∧ new.HangsOn cursor) : (s.addBlock new).Sound := by
  -- The new block is not open, so whatever is said of open blocks was known.
  have hopen : ∀ {b block c}, (s.addBlock new).block? b = some block → block.cursor = some c →
      s.block? b = some block := by
    intro b block c hb hc
    rcases block?_addBlock_cases hb with ⟨-, rfl⟩ | hold
    · rw [hnew] at hc
      cases hc
    · exact hold
  constructor
  case owned => exact fun hb hc => hs.owned (hopen hb hc) hc
  case parent =>
    intro b block p hb hp
    rcases block?_addBlock_cases hb with ⟨-, rfl⟩ | hold
    · exact hparent p hp
    · exact hs.parent hold hp
  case owner =>
    intro c cursor hc
    obtain ⟨b, block, hb, hcur⟩ := hs.owner hc
    exact ⟨b, block, by rw [block?_addBlock, if_neg (ne_freshBlock hb), hb], hcur⟩
  case injective =>
    exact fun hb hb' hc hc' => hs.injective (hopen hb hc) (hopen hb' hc') hc hc'
  case older => exact fun hb hp hc => hs.older (hopen hb hc) hp hc

/-! ### Opening a block -/

section

variable {b : BlockId} {block : Block} {children : List Node} (hs : s.Sound) (hb : s.block? b = some block)
  (hc : block.cursor = none)
  (hp : ∀ p, block.parentCursor = some p → ∃ cursor, s.cursor? p = some cursor ∧ cursor.IsUsable)

include hs hb hc hp

private theorem owned_attach {d : BlockId} {found : Block} {c : CursorId}
    (hd : (s.attach b block block.node children).block? d = some found) (hfound : found.cursor = some c) :
    ∃ cursor, (s.attach b block block.node children).cursor? c = some cursor ∧ found.Owns cursor := by
  rcases block?_attach_cases hb hd with ⟨rfl, rfl⟩ | ⟨-, hold⟩
  · cases hfound
    rw [cursor?_attach s d block block.node (ne_freshCursor_of_parents hp), if_pos rfl]
    exact ⟨_, rfl, rfl, rfl, rfl, rfl⟩
  · obtain ⟨cursor, hcursor, howns⟩ := hs.owned hold hfound
    obtain ⟨new, hnew, hgrown⟩ := (grows_attach hb hc hp children).cursor hcursor
    exact ⟨new, hnew, howns.grows (.refl found) hfound hgrown⟩

private theorem parent_attach {d : BlockId} {found : Block} {p : CursorId}
    (hd : (s.attach b block block.node children).block? d = some found)
    (hparent : found.parentCursor = some p) :
    ∃ cursor, (s.attach b block block.node children).cursor? p = some cursor ∧ found.HangsOn cursor := by
  have hbefore : ∃ cursor, s.cursor? p = some cursor ∧ found.HangsOn cursor := by
    rcases block?_attach_cases hb hd with ⟨rfl, rfl⟩ | ⟨-, hold⟩
    · obtain ⟨cursor, hcursor, hhangs⟩ := hs.parent hb hparent
      exact ⟨cursor, hcursor, hhangs.config, hhangs.path⟩
    · exact hs.parent hold hparent
  obtain ⟨cursor, hcursor, hhangs⟩ := hbefore
  obtain ⟨new, hnew, hgrown⟩ := (grows_attach hb hc hp children).cursor hcursor
  exact ⟨new, hnew, hhangs.grows (.refl found) hgrown⟩

private theorem owner_attach {c : CursorId} {cursor : Cursor}
    (hcursor : (s.attach b block block.node children).cursor? c = some cursor) :
    ∃ d found, (s.attach b block block.node children).block? d = some found ∧ found.cursor = some c := by
  rcases cursor?_attach_cases hp hcursor with ⟨rfl, -⟩ | ⟨old, -, hold, -⟩
  · exact ⟨b, { block with cursor := some s.freshCursor }, by rw [block?_attach, if_pos rfl, hb]; rfl, rfl⟩
  · obtain ⟨d, found, hd, hfound⟩ := hs.owner hold
    obtain ⟨new, hnew, hgrown⟩ := (grows_attach hb hc hp children).block hd
    exact ⟨d, new, hnew, (hgrown.opened hfound).1⟩

/-- A block that is opened gets a cursor of its own. -/
theorem attach (children : List Node) : (s.attach b block block.node children).Sound := by
  -- A block other than the new one has a cursor that was there before.
  have hother : ∀ {d found c}, s.block? d = some found → found.cursor = some c → c ≠ s.freshCursor := by
    intro d found c hd hfound
    obtain ⟨cursor, hcursor, -⟩ := hs.owned hd hfound
    exact ne_freshCursor hcursor
  refine ⟨hs.owned_attach hb hc hp, hs.parent_attach hb hc hp, hs.owner_attach hb hc hp, ?injective, ?older⟩
  case injective =>
    intro d d' found found' c hd hd' hfound hfound'
    rcases block?_attach_cases hb hd with ⟨rfl, rfl⟩ | ⟨-, hold⟩ <;>
      rcases block?_attach_cases hb hd' with ⟨rfl, rfl⟩ | ⟨-, hold'⟩
    · rfl
    · cases hfound
      exact absurd rfl (hother hold' hfound')
    · cases hfound'
      exact absurd rfl (hother hold hfound)
    · exact hs.injective hold hold' hfound hfound'
  case older =>
    intro d found p c hd hparent hfound
    rcases block?_attach_cases hb hd with ⟨rfl, rfl⟩ | ⟨-, hold⟩
    · cases hfound
      obtain ⟨cursor, hcursor, -⟩ := hp p hparent
      exact index_lt_size hcursor
    · exact hs.older hold hparent hfound

end

end Sound

/-- Matching keeps sessions in order. -/
theorem Change.sound (h : s.Change t) (hs : s.Sound) : t.Sound := by
  -- Only three changes make a block or a cursor; the others keep what is there as it was.
  cases h with
  | silent h =>
      refine hs.of_grows (.of_silent h) (by rw [h]) (by rw [h]) ?_
      intro b old new hold hnew
      rw [h.block?, hold] at hnew
      cases hnew
      rfl
  | @take b block c cursor n hb hc hp hcursor hu hn =>
      refine hs.of_grows (grows_take hb hc c n) (by simp [Session.take, modifyCursor, modifyBlock])
        (by simp [Session.take, modifyCursor, modifyBlock]) ?_
      intro d old new hold hnew
      rcases block?_take_cases hb hnew with ⟨rfl, rfl⟩ | ⟨-, hnew⟩
      · rw [hb] at hold
        cases hold
        rfl
      · rw [hold] at hnew
        cases hnew
        rfl
  | attach hb hc hp _ => exact hs.attach hb hc hp _
  | @release b block c hb hc =>
      refine hs.of_grows (grows_release ..) ?_ ?_ ?_
      · unfold Session.release
        cases block.parentCursor <;> simp [modifyCursor]
      · unfold Session.release
        cases block.parentCursor <;> rfl
      · intro d old new hold hnew
        rw [block?_release, hold] at hnew
        cases hnew
        rfl
  | rootBlock => exact hs.addBlock rfl fun p hp => absurd hp (Option.some_ne_none p).symm
  | childBlock e hc _ _ =>
      refine hs.addBlock rfl ?_
      intro p hp
      cases hp
      exact ⟨_, hc, rfl, rfl⟩
  | advance hc _ _ _ =>
      refine hs.of_grows (grows_advance hc _) (by simp [modifyCursor]) rfl ?_
      intro d old new hold hnew
      rw [block?_modifyCursor, hold] at hnew
      cases hnew
      rfl

instance : IsStable fun s t => s.Sound → t.Sound where
  silent h := (Change.silent h).sound
  trans hst htu hs := htu (hst hs)
  change := Change.sound

/-- Nothing was made in a session that has just begun. -/
theorem sound_fresh (w : World) : Session.Sound { world := w } := by
  constructor <;> intros <;> simp_all [block?, cursor?]

/-! ## Routes -/

/-- The nodes from the root of the match that a block belongs to down to the block's node.  The block
at the root may have been given nodes above its own. -/
inductive Route (s : Session) : BlockId → List Node → Prop
  | root {b : BlockId} {block : Block} : s.block? b = some block → block.parentCursor = none →
      Route s b (block.parentPath ++ [block.node])
  | child {b parent : BlockId} {block above : Block} {p : CursorId} {nodes : List Node} :
      s.block? b = some block → block.parentCursor = some p → s.block? parent = some above →
      above.cursor = some p → Route s parent nodes → Route s b (nodes ++ [block.node])

theorem Route.ne_nil {b : BlockId} {nodes : List Node} (h : s.Route b nodes) : nodes ≠ [] := by
  cases h <;> simp

/-- The path of an open block's cursor is the block's route. -/
theorem Sound.route (hs : s.Sound) {b : BlockId} {block : Block} {c : CursorId} {cursor : Cursor}
    (hb : s.block? b = some block) (hc : block.cursor = some c) (hcursor : s.cursor? c = some cursor) :
    s.Route b cursor.path := by
  -- The cursor above is older, so the induction is on the number of the cursor.
  obtain ⟨i, hi⟩ : ∃ i, c.index = i := ⟨_, rfl⟩
  induction i using Nat.strongRecOn generalizing b block c cursor with
  | _ i ih =>
      obtain ⟨cursor', hcursor', howns⟩ := hs.owned hb hc
      rw [hcursor] at hcursor'
      cases hcursor'
      rw [howns.path]
      cases hp : block.parentCursor with
      | none => exact .root hb hp
      | some p =>
          obtain ⟨above, habove, hhangs⟩ := hs.parent hb hp
          obtain ⟨parent, parentBlock, hparent, hcur⟩ := hs.owner habove
          have hlt := hs.older hb hp hc
          rw [hhangs.path]
          exact .child hb hp hparent hcur (ih p.index (hi ▸ hlt) hparent hcur habove rfl)

end Session

end TreeShape
