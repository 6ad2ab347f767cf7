import Mathlib.Data.List.Chain
import TreeShape.Proofs.Activity.Positions
import TreeShape.Proofs.Reports.Faults
import TreeShape.Proofs.Shape.Following

/-!
# Paths lead from the root to the node

The path of a cursor is put together when its block is opened, from the path that the block was given
when it was made, possibly long before.  So the path of every cursor is a chain from a root that a match
was started at, each node one of the children of the node before it.  Every place that is reported is
the end of such a chain, and the text and the path of the report name the same nodes.

Scripts may alter the tree.  Then a node was a child of the one before it when the block of that one was
opened; in a tree that stays as it is, it still is one.

## Strategy

* **The invariant.**  `Session.Linked` says of every cursor that it stands at a root, or at one of the
  children that the cursor above it has seen.  What it is to tell children and to start at a root are
  parameters: for the paths, children are told at some moment of the run and matches started by one of
  its deeds (`linked_sessionAfter`); elsewhere the same invariant serves for trees that are not altered.
* **One step.**  Only opening a block makes a cursor (`linked_open`).  The new cursor hangs where its
  block hung (`hangs_of_takes`); the others have grown, and what `Session.Linked` says of them stays
  true when they grow (`Cursor.Hangs.grows`).
* **From links to chains.**  `Session.Linked.chain` goes up from a cursor.  The induction is on the
  length of the path, which is shorter by one at the cursor above.
* **Reports.**  `Deed.fault` lists what a deed can fail with and where.  Each of these places is the
  path of a cursor, or of a block, which is that of the cursor above it: `Session.Linked.locates`.
-/

namespace TreeShape

open Run

/-- Matches start at roots, and not at nodes that are taken to have others above them. -/
def Deed.StartsAtRoot : Deed → Prop
  | .blockAt .. => False
  | _ => True

/-- A deed starts a match at a node, with nothing above it or with what is taken to be there. -/
inductive Deed.Starts : Deed → Config → List Node → Node → Prop
  | matching (c : Config) (e : Expected) (root : Node) : Starts (matching c e root) c [] root
  | blockAt (c : Config) (e : Expected) (above : List Node) (n : Node) :
      Starts (blockAt c e above n) c above n

/-- The tree is not altered. -/
def Deed.IsFrozen : Deed → Prop
  | .alter _ => False
  | _ => True

theorem Deed.world_run {d : Deed} (hd : d.IsFrozen) (s : Session) :
    (d.run s).2.world = s.world := by
  rcases d.cases_plain with hplain | ⟨b, rfl⟩ | ⟨b, failure, rfl⟩
  · have houtcome := hplain.outcome s
    generalize d.run s = r at houtcome ⊢
    cases houtcome with
    | altered => exact hd.elim
    | _ => rfl
  · have hrun : ((enter b).run s).2 = (b.open s).2 := Moment.session_after_enter { session := s } b
    rw [hrun]
    exact (b.keeps_open (R := fun s t => t.world = s.world)).after s
  · have hrun : ((exit b failure).run s).2 = (b.exit failure s).2 :=
      congrArg Moment.session (Moment.after_exit { session := s } b failure)
    rw [hrun]
    exact (b.keeps_exit (R := fun s t => t.world = s.world) failure).after s

/-! ## Links -/

/-- How a cursor goes on from what is above it. -/
inductive Cursor.Hangs (starts : Config → List Node → Node → Prop) (s : Session) (cursor : Cursor) :
    Prop
  | root {above : List Node} : starts cursor.config above cursor.node →
      cursor.path = above ++ [cursor.node] → Hangs starts s cursor
  | child {p : CursorId} {parent : Cursor} : s.cursor? p = some parent →
      cursor.config = parent.config → cursor.path = parent.path ++ [cursor.node] →
      cursor.node ∈ parent.children → Hangs starts s cursor

/-- Cursors have seen children that were told, hang on others or stand at roots, and so do blocks. -/
structure Session.Linked (tells : Config → Node → List Node → Prop)
    (starts : Config → List Node → Node → Prop) (s : Session) : Prop where
  told : ∀ {c cursor}, s.cursor? c = some cursor → tells cursor.config cursor.node cursor.children
  hangs : ∀ {c cursor}, s.cursor? c = some cursor → cursor.Hangs starts s
  root : ∀ {b block}, s.block? b = some block → block.parentCursor = none →
    starts block.config block.parentPath block.node

variable {tells : Config → Node → List Node → Prop} {starts : Config → List Node → Node → Prop}
  {s t : Session}

theorem Cursor.Hangs.grows {old new : Cursor} (h : old.Hangs starts s) (hs : s.Grows t)
    (hgrows : old.Grows new) : new.Hangs starts t := by
  cases h with
  | root hstarts hpath =>
      rw [← hgrows.config, ← hgrows.node] at hstarts
      rw [← hgrows.path, ← hgrows.node] at hpath
      exact .root hstarts hpath
  | child hparent hconfig hpath hmem =>
      obtain ⟨later, hlater, hparentGrows⟩ := hs.cursor hparent
      refine .child hlater ?_ ?_ ?_
      · rw [hgrows.config, hconfig, hparentGrows.config]
      · rw [hgrows.path, hpath, hparentGrows.path, hgrows.node]
      · rwa [hgrows.node, hparentGrows.children]

namespace Session.Linked

/-- Where no cursor is made and no match started, all stays linked. -/
theorem of_grows (hs : s.Linked tells starts) (hgrows : s.Grows t)
    (hcursor : ∀ {c new}, t.cursor? c = some new → ∃ old, s.cursor? c = some old)
    (hroot : ∀ {b new}, t.block? b = some new → new.parentCursor = none →
      ∃ old, s.block? b = some old ∧ new.node = old.node) : t.Linked tells starts := by
  -- Every cursor was there before and has only grown.
  have hback : ∀ {c new}, t.cursor? c = some new →
      ∃ old, s.cursor? c = some old ∧ old.Grows new := by
    intro c new hc
    obtain ⟨old, hold⟩ := hcursor hc
    exact ⟨old, hold, hgrows.cursor_of_both hold hc⟩
  constructor
  case told =>
    intro c new hc
    obtain ⟨old, hold, hgrown⟩ := hback hc
    rw [hgrown.config, hgrown.node, hgrown.children]
    exact hs.told hold
  case hangs =>
    intro c new hc
    obtain ⟨old, hold, hgrown⟩ := hback hc
    exact (hs.hangs hold).grows hgrows hgrown
  case root =>
    intro b new hb hp
    obtain ⟨old, hold, hnode⟩ := hroot hb hp
    have hgrown := hgrows.block_of_both hold hb
    rw [hgrown.parentPath, hgrown.config, hnode]
    exact hs.root hold (hgrown.parentCursor.symm.trans hp)

theorem addBlock (hs : s.Linked tells starts) {new : Block}
    (hnew : new.parentCursor = none → starts new.config new.parentPath new.node) :
    (s.addBlock new).Linked tells starts where
  told hc := hs.told hc
  hangs hc := (hs.hangs hc).grows (grows_addBlock s new) (.refl _)
  root {b block} hb hp := by
    rw [block?_addBlock] at hb
    split at hb
    · cases hb
      exact hnew hp
    · exact hs.root hb hp

end Session.Linked

namespace BlockId

variable {b : BlockId} {block : Block} {n : Node} {taken : Session}

/-- Taking a node makes no cursor. -/
theorem cursor?_of_takes (ht : Takes s b block n taken) {c : CursorId} {new : Cursor}
    (hc : taken.cursor? c = some new) : ∃ old, s.cursor? c = some old := by
  cases ht with
  | root => exact ⟨new, hc⟩
  | child =>
      rw [Session.cursor?_take] at hc
      split at hc
      · next heq =>
          rw [Option.map_eq_some_iff] at hc
          obtain ⟨old, hold, -⟩ := hc
          exact ⟨old, heq ▸ hold⟩
      · exact ⟨new, hc⟩

/-- Only blocks that hang on a cursor take another node than their own. -/
theorem root_of_takes (hb : s.block? b = some block) (ht : Takes s b block n taken) {d : BlockId}
    {new : Block} (hd : taken.block? d = some new) (hp : new.parentCursor = none) :
    s.block? d = some new := by
  cases ht with
  | root => exact hd
  | child hparent =>
      rw [Session.block?_take] at hd
      split at hd
      · rw [hb] at hd
        cases hd
        rw [hparent] at hp
        cases hp
      · exact hd

/-- The cursor of a block that opens hangs where the block hung. -/
theorem hangs_of_takes (hs : s.Linked tells starts) (hsound : s.Sound) (hb : s.block? b = some block)
    (ht : Takes s b block n taken) (hgrows : s.Grows t) (children : List Node) :
    (block.cursorFor n children).Hangs starts t := by
  cases ht with
  | root hp => exact .root (hs.root hb hp) rfl
  | @child c cursor n hp hc hu hn =>
      obtain ⟨cursor', hcursor', hhangs⟩ := hsound.parent hb hp
      rw [hc] at hcursor'
      cases hcursor'
      obtain ⟨later, hlater, hgrown⟩ := hgrows.cursor hc
      refine .child hlater ?_ ?_ ?_
      · exact hhangs.config.trans hgrown.config.symm
      · rw [hgrown.path, ← hhangs.path]
        rfl
      · rw [hgrown.children]
        exact List.mem_of_getElem? hn

/-- When a block has opened, every cursor is its own or has grown from one that was there. -/
theorem cursor?_of_opened {looked : Session} {children : List Node} (ht : Takes s b block n taken)
    (hsilent : taken.Silent looked)
    (hparent : ∀ p, block.parentCursor = some p →
      ∃ cursor, taken.cursor? p = some cursor ∧ cursor.IsUsable)
    (hgrows : s.Grows (looked.attach b { block with node := n } n children)) {d : CursorId}
    {new : Cursor}
    (hd : (looked.attach b { block with node := n } n children).cursor? d = some new) :
    new = block.cursorFor n children ∨ ∃ old, s.cursor? d = some old ∧ old.Grows new := by
  have hparent' : ∀ p, block.parentCursor = some p →
      ∃ cursor, looked.cursor? p = some cursor ∧ cursor.IsUsable := by
    intro p hp
    rw [hsilent.cursor?]
    exact hparent p hp
  rcases Session.cursor?_attach_cases hparent' hd with ⟨-, rfl⟩ | ⟨mid, -, hmid, -⟩
  · exact .inl rfl
  · rw [hsilent.cursor?] at hmid
    obtain ⟨old, hold⟩ := cursor?_of_takes ht hmid
    exact .inr ⟨old, hold, hgrows.cursor_of_both hold hd⟩

theorem linked_open {outcome : Except Failure CursorId} (hs : s.Linked tells starts)
    (hsound : s.Sound)
    (htells : ∀ c n children, (c.view s.world).ask n = .ok children → tells c n children)
    (h : b.open s = (outcome, t)) : t.Linked tells starts := by
  have hgrows : s.Grows t := b.keeps_open.of_eq h
  -- Only an opening that succeeds makes a cursor; one that fails may have advanced the parent's.
  cases opening_of_eq h with
  | refused => exact hs
  | failed f hb hc ht hsilent =>
      refine hs.of_grows hgrows ?_ ?_
      · exact fun hd => cursor?_of_takes ht ((hsilent.cursor? _).symm.trans hd)
      · exact fun hd hp => ⟨_, root_of_takes hb ht ((hsilent.block? _).symm.trans hd) hp, rfl⟩
  | @opened block n children taken looked hb hc ht hsilent hask =>
      obtain ⟨htaken, -, -⟩ := takes_block hb ht
      obtain ⟨-, hparent⟩ := takes_change (R := Session.Changes) hb hc ht
      constructor
      case told =>
        intro d new hd
        rcases cursor?_of_opened ht hsilent hparent hgrows hd with rfl | ⟨old, hold, hgrown⟩
        · exact htells _ _ _ hask
        · rw [hgrown.config, hgrown.node, hgrown.children]
          exact hs.told hold
      case hangs =>
        intro d new hd
        rcases cursor?_of_opened ht hsilent hparent hgrows hd with rfl | ⟨old, hold, hgrown⟩
        · exact hangs_of_takes hs hsound hb ht hgrows children
        · exact (hs.hangs hold).grows hgrows hgrown
      case root =>
        intro d new hd hp
        rw [Session.block?_attach, hsilent.block?, hsilent.block?] at hd
        split at hd
        · rw [htaken] at hd
          cases hd
          have hroot : block.parentCursor = none := hp
          have hstarts := hs.root (root_of_takes hb ht htaken hroot) hroot
          exact hstarts
        · exact hs.root (root_of_takes hb ht hd hp) hp

theorem linked_exit (hs : s.Linked tells starts) (failure : Option Failure) :
    (b.exit failure s).2.Linked tells starts := by
  by_cases hopened : ∃ block c, s.block? b = some block ∧ block.cursor = some c
  · obtain ⟨block, c, hb, hc⟩ := hopened
    have hsilent : s.Silent (b.conclude failure s).2 := (b.keeps_conclude failure).after s
    refine hs.of_grows ((b.keeps_exit failure).after s) ?_ ?_
    · intro d new hd
      rw [exit_apply hb hc, Session.cursor?_release, hsilent.cursor?, Option.map_eq_some_iff] at hd
      exact hd.imp fun _ hold => hold.1
    · intro d new hd _
      rw [exit_apply hb hc, Session.block?_release, hsilent.block?] at hd
      exact ⟨new, hd, rfl⟩
  · rw [exit_of_unopened]
    · have hsilent : s.Silent (b.conclude failure s).2 := (b.keeps_conclude failure).after s
      refine hs.of_grows (.of_silent hsilent) ?_ ?_
      · exact fun hd => ⟨_, (hsilent.cursor? _).symm.trans hd⟩
      · exact fun hd _ => ⟨_, (hsilent.block? _).symm.trans hd, rfl⟩
    · intro block hb
      cases hc : block.cursor with
      | none => rfl
      | some c => exact absurd ⟨block, c, hb, hc⟩ hopened

end BlockId

/-! ## Paths -/

/-- Every path is a chain from a root to the cursor's node. -/
theorem Session.Linked.chain (hs : s.Linked tells starts)
    (hroot : ∀ {c above n}, starts c above n → above = []) {c : CursorId} {cursor : Cursor}
    (hc : s.cursor? c = some cursor) :
    (∃ root, starts cursor.config [] root ∧ cursor.path.head? = some root) ∧
      cursor.path.getLast? = some cursor.node ∧
      cursor.path.IsChain fun p n => ∃ children, tells cursor.config p children ∧ n ∈ children := by
  -- The path above is shorter by one.
  obtain ⟨k, hk⟩ : ∃ k, cursor.path.length = k := ⟨_, rfl⟩
  induction k generalizing c cursor with
  | zero =>
      cases hs.hangs hc with
      | root _ hpath => simp [hpath] at hk
      | child _ _ hpath _ => simp [hpath] at hk
  | succ k ih =>
      cases hs.hangs hc with
      | root hstarts hpath =>
          cases hroot hstarts
          rw [hpath]
          exact ⟨⟨_, hstarts, rfl⟩, rfl, List.isChain_singleton _⟩
      | @child p parent hparent hconfig hpath hmem =>
          have hlength : parent.path.length = k := by simpa [hpath] using hk
          obtain ⟨⟨root, hstarts, hhead⟩, hlast, hchain⟩ := ih hparent hlength
          rw [hpath, hconfig]
          refine ⟨⟨root, hstarts, ?_⟩, List.getLast?_concat, ?_⟩
          · rw [List.head?_append, hhead]
            rfl
          · refine List.isChain_append.mpr ⟨hchain, List.isChain_singleton _, ?_⟩
            intro q hq n hn
            rw [hlast] at hq
            cases hq
            cases hn
            exact ⟨_, hs.told hparent, hmem⟩

/-- What is so at all roots, and goes over to the children that a node tells, is so at every cursor. -/
theorem Session.Linked.holds (hs : s.Linked tells starts) {P : Config → Node → Prop}
    (hroot : ∀ {c above n}, starts c above n → P c n)
    (hchild : ∀ {c p children n}, tells c p children → P c p → n ∈ children → P c n) {c : CursorId}
    {cursor : Cursor} (hc : s.cursor? c = some cursor) : P cursor.config cursor.node := by
  obtain ⟨k, hk⟩ : ∃ k, cursor.path.length = k := ⟨_, rfl⟩
  induction k using Nat.strongRecOn generalizing c cursor with
  | _ k ih =>
      cases hs.hangs hc with
      | root hstarts _ => exact hroot hstarts
      | @child p parent hparent hconfig hpath hmem =>
          have hshorter : parent.path.length < k := by simp [← hk, hpath]
          rw [hconfig]
          exact hchild (hs.told hparent) (ih _ hshorter hparent rfl) hmem

/-- The paths at whose ends a deed reports: those of the cursor that it uses, of the block that it
leaves, or the empty one above a root. -/
inductive Deed.Blames (s : Session) : Deed → Config → List Node → Prop
  | used {d : Deed} {c : CursorId} {cursor : Cursor} : d.Uses s c → s.cursor? c = some cursor →
      Blames s d cursor.config cursor.path
  | root {b : BlockId} {block : Block} : s.block? b = some block → block.parentCursor = none →
      Blames s (enter b) block.config []
  | left {b : BlockId} {block : Block} {cursor : Cursor} {failure : Option Failure} :
      s.Owns b block cursor → Blames s (exit b failure) cursor.config cursor.path

/-- The text of a failure begins with the path of these names. -/
def Failure.IsAt (f : Failure) (names : List Name) : Prop :=
  ∃ rest, f.text = "At " ++ Location.pathText names ++ ": " ++ rest

theorem Location.exists_message (place : Location) (text : String) :
    ∃ rest, place.message text = "At " ++ pathText place.names ++ ": " ++ rest := by
  unfold Location.message
  cases place.dump with
  | none => exact ⟨text, rfl⟩
  | some dump => exact ⟨text ++ "\n\n" ++ banner ++ "\n\n" ++ dump, by simp only [String.append_assoc]⟩

theorem Location.names_of {c : Config} {w : World} {nodes : List Node} {place : Location}
    (h : Location.of c w nodes = .ok place) : place.names = Location.namesOf c w nodes := by
  unfold Location.of at h
  cases hdump : Location.dumpOf c w nodes with
  | error f =>
      rw [hdump] at h
      cases h
  | ok dump =>
      rw [hdump] at h
      cases h
      rfl

/-- A report of a mismatch names the nodes of a path, in its text and in its path. -/
def Failure.Reports (f : Failure) (names : List Name) : Prop :=
  f.path = some (names.map (·.text)) ∧ f.IsAt names

theorem Failure.reports_mismatch {c : Config} {w : World} {nodes : List Node} {place : Location}
    (h : Location.of c w nodes = .ok place) (reason : Mismatch) :
    (Failure.mismatch place reason).Reports (Location.namesOf c w nodes) := by
  rw [← Location.names_of h]
  exact ⟨rfl, place.exists_message reason.text⟩

theorem Session.Linked.blames_enter (hs : s.Linked tells starts)
    (hroot : ∀ {c above n}, starts c above n → above = []) (hsound : s.Sound) {b : BlockId}
    {block : Block} (hb : s.block? b = some block) :
    (Deed.enter b).Blames s block.config block.parentPath := by
  cases hp : block.parentCursor with
  | none =>
      rw [hroot (hs.root hb hp)]
      exact .root hb hp
  | some p =>
      obtain ⟨parent, hparent, hhangs⟩ := hsound.parent hb hp
      rw [hhangs.config, hhangs.path]
      exact .used (.enter hb hp) hparent

/-- A mismatch tells of an empty place, with the empty path, or names the nodes of a path that is to
blame.  A misuse tells that a block was entered again, or begins with the path of the cursor that was
used. -/
def Deed.Locates (s : Session) (d : Deed) (f : Failure) : Prop :=
  (f.kind = .mismatch → (∃ expected, f = .absentRoot expected ∧ f.path = some []) ∨
    ∃ c nodes, d.Blames s c nodes ∧ f.Reports (Location.namesOf c s.world nodes)) ∧
  (f.kind = .misuse → f = .reentered ∨ ∃ c cursor, d.Uses s c ∧ s.cursor? c = some cursor ∧
    f.IsAt (Location.namesOf cursor.config s.world cursor.path))

theorem Deed.locates_mismatch {s : Session} {d : Deed} {c : Config} {nodes : List Node}
    {place : Location} (hblames : d.Blames s c nodes)
    (hplace : Location.of c s.world nodes = .ok place) (reason : Mismatch) :
    d.Locates s (.mismatch place reason) :=
  ⟨fun _ => .inr ⟨c, nodes, hblames, Failure.reports_mismatch hplace reason⟩, nofun⟩

/-- Whatever a deed fails with is located, unless it is foreign. -/
theorem Session.Linked.locates (hs : s.Linked tells starts)
    (hroot : ∀ {c above n}, starts c above n → above = []) (hsound : s.Sound) {d : Deed}
    {f : Failure} (h : s.Fault d f) : d.Foreign s f ∨ d.Locates s f := by
  cases h with
  | absentRoot c e => exact .inr ⟨fun _ => .inl ⟨_, rfl, rfl⟩, nofun⟩
  | negativeSkip => exact .inr ⟨nofun, nofun⟩
  | reentered => exact .inr ⟨nofun, fun _ => .inl rfl⟩
  | unopened => exact .inr ⟨nofun, nofun⟩
  | @misuse _ c cursor place reason hd hc hreason hplace =>
      refine .inr ⟨nofun, fun _ => .inr ⟨c, cursor, hd, hc, ?_⟩⟩
      rw [← Location.names_of hplace]
      exact place.exists_message reason.text
  | noChild hb hp hc _ hplace => exact .inr (Deed.locates_mismatch (.used (.enter hb hp) hc) hplace _)
  | farSkip hc _ hplace => exact .inr (Deed.locates_mismatch (.used (.skip ..) hc) hplace _)
  | wrongType hb _ _ _ _ hplace =>
      exact .inr (Deed.locates_mismatch (hs.blames_enter hroot hsound hb) hplace _)
  | wrongParent hb _ _ _ _ _ hplace =>
      exact .inr (Deed.locates_mismatch (hs.blames_enter hroot hsound hb) hplace _)
  | childCount howns _ _ hplace => exact .inr (Deed.locates_mismatch (.left howns) hplace _)
  | located howns _ hplace => exact .inr (Deed.locates_mismatch (.left howns) hplace _)
  | foreign hf => exact .inl hf

/-! ## Runs -/

namespace Moment

theorem linked_after {m : Moment} {d : Deed} (hm : m.session.Linked tells starts)
    (hsound : m.session.Sound) (hstarts : ∀ c above n, d.Starts c above n → starts c above n)
    (htells : ∀ c n children, (c.view m.session.world).ask n = .ok children → tells c n children) :
    (m.after d).session.Linked tells starts := by
  rcases d.cases_plain with hplain | ⟨b, rfl⟩ | ⟨b, failure, rfl⟩
  · rw [after_plain hplain]
    have houtcome := hplain.outcome m.session
    generalize d.run m.session = r at houtcome ⊢
    -- What is made without a parent is what the deed starts; only a skip changes a cursor.
    cases houtcome with
    | failed => exact hm
    | looked => exact hm
    | altered change =>
        have hgrows : m.session.Grows { m.session with world := change m.session.world } :=
          ⟨fun h => ⟨_, h, .refl _⟩, fun h => ⟨_, h, .refl _⟩⟩
        exact hm.of_grows hgrows (fun h => ⟨_, h⟩) fun h _ => ⟨_, h, rfl⟩
    | started c e root => exact hm.addBlock fun _ => hstarts c [] root (.matching c e root)
    | madeAt c e above n => exact hm.addBlock fun _ => hstarts c above n (.blockAt c e above n)
    | madeFor => exact hm.addBlock fun hp => nomatch hp
    | @skipped c cursor count hc hu hi hle =>
        refine hm.of_grows (Session.grows_advance hc count.toNat) ?_ fun h _ => ⟨_, h, rfl⟩
        intro d new hnew
        rw [Session.cursor?_modifyCursor] at hnew
        split at hnew
        · next heq => exact ⟨cursor, heq ▸ hc⟩
        · exact ⟨new, hnew⟩
  · rw [session_after_enter]
    exact BlockId.linked_open hm hsound htells rfl
  · rw [after_exit]
    exact BlockId.linked_exit hm failure

/-- What a run starts and is told keeps everything linked. -/
theorem linked_afterAll {m : Moment} {ds : List Deed} (hm : m.session.Linked tells starts)
    (hsound : m.session.Sound)
    (hstarts : ∀ d ∈ ds, ∀ c above n, d.Starts c above n → starts c above n)
    (htells : ∀ es, es <+: ds → ∀ c n children,
      (c.view (m.afterAll es).session.world).ask n = .ok children → tells c n children) :
    (m.afterAll ds).session.Linked tells starts := by
  induction ds generalizing m with
  | nil => exact hm
  | cons d ds ih =>
      have hafter := linked_after hm hsound (hstarts d List.mem_cons_self)
        (htells [] List.nil_prefix)
      refine ih hafter ?_ ?_ ?_
      · exact (d.evolves m.session).sound hsound
      · exact fun e he => hstarts e (List.mem_cons_of_mem d he)
      · exact fun es hes => htells (d :: es) (List.cons_prefix_cons.mpr ⟨rfl, hes⟩)

/-- At some moment of a run a node is one of the children that another one tells. -/
def WasChild (w : World) (ds : List Deed) (c : Config) (parent n : Node) : Prop :=
  ∃ es, es <+: ds ∧ ∃ children,
    (c.view (sessionAfter w es).world).ask parent = .ok children ∧ n ∈ children

theorem sound_sessionAfter (w : World) (ds : List Deed) : (sessionAfter w ds).Sound :=
  ((start w).evolves_afterAll ds).sound (Session.sound_fresh w)

/-- In a run, children are told at some moment of it, and matches started by one of its deeds. -/
theorem linked_sessionAfter (w : World) (ds : List Deed) :
    (sessionAfter w ds).Linked
      (fun c n children => ∃ es, es <+: ds ∧
        (c.view (sessionAfter w es).world).ask n = .ok children)
      fun c above n => ∃ d ∈ ds, d.Starts c above n := by
  have hstart : (start w).session.Linked
      (fun c n children => ∃ es, es <+: ds ∧
        (c.view (sessionAfter w es).world).ask n = .ok children)
      fun c above n => ∃ d ∈ ds, d.Starts c above n := by
    constructor <;> intros <;> simp_all [start, Session.cursor?, Session.block?]
  refine linked_afterAll hstart (Session.sound_fresh w) ?_ ?_
  · exact fun d hd c above n h => ⟨d, hd, h⟩
  · exact fun es hes c n children h => ⟨es, hes, h⟩

/-- The tree of a run that does not alter it. -/
theorem world_afterAll {m : Moment} {ds : List Deed} (hds : ∀ d ∈ ds, d.IsFrozen) :
    (m.afterAll ds).session.world = m.session.world := by
  induction ds generalizing m with
  | nil => rfl
  | cons d ds ih =>
      have hrest := ih (m := m.after d) fun e he => hds e (List.mem_cons_of_mem d he)
      exact hrest.trans (d.world_run (hds d List.mem_cons_self) m.session)

theorem world_sessionAfter (w : World) {ds : List Deed} (hds : ∀ d ∈ ds, d.IsFrozen) :
    (sessionAfter w ds).world = w :=
  world_afterAll hds

/-- Using a block around a script fails with what entering the block fails with, or leaving it after what
the script has done, or with what the script fails with. -/
def FailsIn (w : World) (ds : List Deed) (b : BlockId) (inside : CursorId → Script) (f : Failure) :
    Prop :=
  ((Deed.enter b).run (sessionAfter w ds)).1 = .error f ∨
    ∃ c t, b.open (sessionAfter w ds) = (.ok c, t) ∧ (((inside c).run t).1 = .error f ∨
      ((Deed.exit b (BlockId.failure? ((inside c).run t).1)).run
        (sessionAfter w (ds ++ .enter b :: (inside c).deeds t))).1 = .error f)

theorem failsIn_of_use {w : World} {ds : List Deed} {form : Use} {b : BlockId}
    {inside : CursorId → Script} {f : Failure}
    (h : (b.use form (fun c => (inside c).run) (sessionAfter w ds)).1 = .error f) :
    FailsIn w ds b inside f := by
  rcases BlockId.error_of_use h with hopen | ⟨c, t, hopen, hbody⟩
  · exact .inl hopen
  · refine .inr ⟨c, t, hopen, ?_⟩
    have hsession : sessionAfter w (ds ++ .enter b :: (inside c).deeds t) =
        ((inside c).run t).2 := by
      have hentered := after_enter_of_ok (m := (start w).afterAll ds) hopen
      rw [sessionAfter, afterAll_append, afterAll_cons, hentered]
      exact (inside c).session_afterAll_deeds _
    rw [hsession]
    exact hbody.symm

/-- In every moment of every run that starts its matches at roots.  The path of a cursor begins with a
root that a match was started at and ends with the cursor's node; each node on it was, when the block of
the one before was opened, one of the children of that one, and still is in a tree that is not altered;
and it is the path above the cursor's block with the node behind it.  The path above a block is the path
of the cursor that made the block, and empty for the block of a root.

Whatever a deed fails with, unless an adapter, a printer or an implicit check failed with it.  If it is a
mismatch, then a match was to be started at an empty place, and its path is empty; or its path and the
beginning of its text name the nodes of the path of a cursor, or of the empty path above a root.  If it
is a misuse, then a block was entered again, or its text begins with the path of the very cursor that was
used.

What comes of using a block around a script is what entering the block fails with, or leaving it, or the
script. -/
theorem paths_of_run (w : World) (ds : List Deed) (hds : ∀ d ∈ ds, d.StartsAtRoot) :
    (∀ c cursor, (sessionAfter w ds).cursor? c = some cursor →
      (∃ e root, Deed.matching cursor.config e root ∈ ds ∧ cursor.path.head? = some root) ∧
      cursor.path.getLast? = some cursor.node ∧
      cursor.path.IsChain (WasChild w ds cursor.config) ∧
      ((∀ d ∈ ds, d.IsFrozen) →
        cursor.path.IsChain fun p n => n ∈ (cursor.config.view w).children p) ∧
      ∃ b block, (sessionAfter w ds).block? b = some block ∧ block.cursor = some c ∧
        cursor.path = block.parentPath ++ [cursor.node]) ∧
    (∀ b block, (sessionAfter w ds).block? b = some block →
      match block.parentCursor with
      | none => block.parentPath = []
      | some p => ∃ parent, (sessionAfter w ds).cursor? p = some parent ∧
          block.parentPath = parent.path) ∧
    (∀ (d : Deed) f, (d.run (sessionAfter w ds)).1 = .error f →
      d.Foreign (sessionAfter w ds) f ∨ d.Locates (sessionAfter w ds) f) ∧
    ∀ form (b : BlockId) (inside : CursorId → Script) f,
      (b.use form (fun c => (inside c).run) (sessionAfter w ds)).1 = .error f →
      FailsIn w ds b inside f := by
  have hsound := sound_sessionAfter w ds
  have hlinked := linked_sessionAfter w ds
  -- No block is made at a path that the deeds supply themselves.
  have hroot : ∀ {c above n}, (∃ d ∈ ds, d.Starts c above n) → above = [] := by
    rintro c above n ⟨d, hd, hstarts⟩
    cases hstarts with
    | matching => rfl
    | blockAt => exact (hds _ hd).elim
  refine ⟨?_, ?_, ?_, ?_⟩
  · intro c cursor hc
    obtain ⟨⟨root, ⟨d, hd, hstarts⟩, hhead⟩, hlast, hchain⟩ := hlinked.chain hroot hc
    refine ⟨?_, hlast, ?_, ?_, ?_⟩
    · cases hstarts with
      | matching _ e => exact ⟨e, root, hd, hhead⟩
      | blockAt => exact (hds _ hd).elim
    · refine hchain.imp fun p n hmem => ?_
      obtain ⟨children, ⟨es, hes, hask⟩, hn⟩ := hmem
      exact ⟨es, hes, children, hask, hn⟩
    · -- While the world is frozen, what was told of children at any time is what is true of them now.
      intro hfrozen
      refine hchain.imp fun p n hmem => ?_
      obtain ⟨children, ⟨es, hes, hask⟩, hn⟩ := hmem
      rw [world_sessionAfter w fun d hd => hfrozen d (hes.subset hd)] at hask
      rwa [View.children_of_ask hask]
    · obtain ⟨b, block, hb, hcur⟩ := hsound.owner hc
      obtain ⟨cursor', hcursor', howns⟩ := hsound.owned hb hcur
      rw [hc] at hcursor'
      cases hcursor'
      exact ⟨b, block, hb, hcur, by rw [howns.path, howns.node]⟩
  · intro b block hb
    cases hp : block.parentCursor with
    | none => exact hroot (hlinked.root hb hp)
    | some p =>
        obtain ⟨parent, hparent, hhangs⟩ := hsound.parent hb hp
        exact ⟨parent, hparent, hhangs.path⟩
  · intro d f hf
    exact hlinked.locates hroot hsound (Deed.fault hsound hf)
  · exact fun form b inside f hf => failsIn_of_use hf

/-- Begins to match the pair, and its first child as a pair, too. -/
def samplePaths : List Deed :=
  [.matching Sample.config ⟨Sample.pair, false⟩ Sample.root, .enter ⟨0⟩,
    .childBlock ⟨0⟩ ⟨Sample.pair, false⟩]

theorem startsAtRoot_samplePaths : ∀ d ∈ samplePaths, d.StartsAtRoot := by
  simp [samplePaths, Deed.StartsAtRoot]

/-- In the sample no one else fails. -/
theorem not_foreign_samplePaths (f : Failure) :
    ¬ (Deed.enter ⟨1⟩).Foreign (sessionAfter Sample.world samplePaths) f := by
  intro h
  cases h with
  | used hd hc hfails =>
      cases hd with
      | enter hb hp =>
          cases hb
          cases hp
          cases hc
          exact Sample.not_fails _ hfails
  | entered hb hfails =>
      cases hb
      exact Sample.not_fails _ hfails

/-- In the sample the pair has a path of one node, and it is this path at which the first child is
reported when its block finds that it is no pair. -/
theorem paths_of_sample :
    (∀ d ∈ samplePaths, d.StartsAtRoot) ∧
      (∃ cursor, (sessionAfter Sample.world samplePaths).cursor? ⟨0⟩ = some cursor ∧
        cursor.path.head? = some Sample.root ∧ cursor.path.getLast? = some Sample.root) ∧
      ∃ f, ((Deed.enter ⟨1⟩).run (sessionAfter Sample.world samplePaths)).1 = .error f ∧
        (Deed.enter ⟨1⟩).Locates (sessionAfter Sample.world samplePaths) f ∧
        f.path = some ["Pair"] ∧
        f.text = "At /Pair: Expected child #0 to have type Pair, actual Leaf" := by
  obtain ⟨hcursors, -, hfailures, -⟩ :=
    paths_of_run Sample.world samplePaths startsAtRoot_samplePaths
  refine ⟨startsAtRoot_samplePaths, ?_, ?_⟩
  · obtain ⟨cursor, hcursor⟩ :
        ∃ cursor, (sessionAfter Sample.world samplePaths).cursor? ⟨0⟩ = some cursor := ⟨_, rfl⟩
    obtain ⟨-, hlast, -⟩ := hcursors ⟨0⟩ cursor hcursor
    refine ⟨cursor, hcursor, ?_, ?_⟩
    · cases hcursor
      rfl
    · cases hcursor
      exact hlast
  · refine ⟨_, rfl, ?_, rfl, rfl⟩
    exact (hfailures (.enter ⟨1⟩) _ rfl).resolve_left (not_foreign_samplePaths _)

end Moment

end TreeShape
