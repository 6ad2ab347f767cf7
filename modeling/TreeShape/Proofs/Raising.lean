import TreeShape.Proofs.Matching.Failing
import TreeShape.Proofs.Sample
import TreeShape.Proofs.Script

/-!
# Where failures get their location

A failure that a script raises, or that an implicit check raises at the end of a block, passes through
all blocks that enclose it.  An assertion without a location gets one, from the innermost of these
blocks; whatever else it is, and from there on, it passes as it is.  Only if the dump that belongs to a
location fails, its failure takes the place of the other one.

## Strategy

`Script.Raised` tells which blocks enclose a failure, innermost first, whatever the script did before
and however it uses the blocks.  A script that catches the failure on its way, or fails with another one
instead, raises that one where it does so.

* **On the way out.**  `Raised.run_eq` says that what comes of the script is what the blocks make of the
  failure one after the other, `Session.settleAll`.  A block makes of it what its cursor does, and this
  cursor is the one that the block had when the failure was raised, `Changes.settle_eq`: steps of
  matching change neither its path nor the world.
* **Located once.**  The first block gives a location to what wants one.  What comes out of it does not
  want one any more, unless the dump has failed, so the other blocks let it pass: `settleAll_of_other`.
* **No accident.**  That no other assertion without a location ever leaves a block,
  `BlockId.fails_of_use`, is shown from what the steps of opening and of leaving can fail with.
-/

namespace TreeShape

open Run

namespace Session

/-- The cursor of a block that has been opened. -/
def openCursor? (s : Session) (b : BlockId) : Option Cursor :=
  (s.block? b).bind fun block => block.cursor.bind s.cursor?

theorem openCursor?_of_cursor {s : Session} {b : BlockId} {block : Block} {c : CursorId}
    {cursor : Cursor} (hb : s.block? b = some block) (hc : block.cursor = some c)
    (hcursor : s.cursor? c = some cursor) : s.openCursor? b = some cursor := by
  simp only [openCursor?, hb, hc, hcursor, Option.bind_some]

/-- A block that has been opened keeps its cursor. -/
theorem Grows.openCursor? {s t : Session} {b : BlockId} {cursor : Cursor} (h : s.Grows t)
    (hb : s.openCursor? b = some cursor) :
    ∃ block c later, t.block? b = some block ∧ block.cursor = some c ∧ t.cursor? c = some later ∧
      cursor.Grows later := by
  simp only [Session.openCursor?, Option.bind_eq_some_iff] at hb
  obtain ⟨block, hblock, c, hc, hcursor⟩ := hb
  obtain ⟨later, hlater, hgrows⟩ := h.cursor hcursor
  exact ⟨block, c, later, h.block_eq hblock hc, hc, hlater, hgrows⟩

/-- What a block that has been opened makes of a failure that leaves it. -/
def settle (s : Session) (b : BlockId) (f : Failure) : Failure :=
  match s.openCursor? b with
  | none => f
  | some cursor => cursor.settle s.world f

/-- What is left of a failure that leaves all of the blocks, the innermost first. -/
def settleAll (s : Session) (blocks : List BlockId) (f : Failure) : Failure :=
  blocks.foldl (fun f b => s.settle b f) f

theorem settle_of_openCursor? {s : Session} {b : BlockId} {cursor : Cursor}
    (h : s.openCursor? b = some cursor) (f : Failure) :
    s.settle b f = cursor.settle s.world f := by
  rw [settle, h]

/-- What is no assertion, or has its location, passes. -/
theorem settleAll_of_other (s : Session) (blocks : List BlockId) {f : Failure}
    (hf : f.wantsLocation = false) : s.settleAll blocks f = f := by
  induction blocks with
  | nil => rfl
  | cons b rest ih =>
      have hb : s.settle b f = f := by
        unfold settle
        split
        · rfl
        · rw [Cursor.settle, if_neg (by simp [hf])]
      rw [settleAll, List.foldl_cons, hb]
      exact ih

/-- Steps of matching do not change what a block makes of failures. -/
theorem Changes.settle_eq {s t : Session} {b : BlockId} {cursor later : Cursor} (h : s.Changes t)
    (hs : s.openCursor? b = some cursor) (ht : t.openCursor? b = some later) (f : Failure) :
    t.settle b f = s.settle b f := by
  obtain ⟨block, c, later', hb, hc, hlater, hgrows⟩ := h.grows.openCursor? hs
  rw [openCursor?_of_cursor hb hc hlater] at ht
  cases ht
  rw [settle_of_openCursor? hs, settle_of_openCursor? (openCursor?_of_cursor hb hc hlater)]
  unfold Cursor.settle Config.locate
  rw [hgrows.config, hgrows.path, h.world]

end Session

/-- An open block has a cursor. -/
theorem BlockId.openCursor?_of_open {b : BlockId} {s t : Session} {c : CursorId}
    (h : b.open s = (.ok c, t)) :
    ∃ block cursor, t.block? b = some block ∧ block.cursor = some c ∧ t.cursor? c = some cursor := by
  obtain ⟨block, n, children, taken, -, -, -, -, hblock, hcursor, -⟩ := cursor_of_open h
  exact ⟨_, _, hblock, rfl, hcursor⟩

/-- A block that was opened has a cursor from then on. -/
theorem Session.Evolves.exists_openCursor? {b : BlockId} {s t u : Session} {c : CursorId}
    (h : t.Evolves u) (hopen : b.open s = (.ok c, t)) :
    ∃ cursor, u.openCursor? b = some cursor := by
  obtain ⟨block, cursor, hb, hc, hcursor⟩ := BlockId.openCursor?_of_open hopen
  obtain ⟨block', c', later, hb', hc', hlater, -⟩ :=
    h.grows.openCursor? (Session.openCursor?_of_cursor hb hc hcursor)
  exact ⟨later, Session.openCursor?_of_cursor hb' hc' hlater⟩

/-! ## Raising -/

namespace Script

/-- Running a script raises a failure inside the given blocks, the innermost first, and nothing on the
way out catches what it leaves them as.  The last session is that in which it is raised. -/
inductive Raised : Script → Session → List BlockId → Failure → Session → Prop
  /-- The script fails. -/
  | fail {f : Failure} {s : Session} : Raised (.fail f) s [] f s
  /-- The rest of the script raises it. -/
  | afterDeed {d : Deed} {next : Except Failure Reply → Script} {s t u : Session}
      {reply : Except Failure Reply} {blocks : List BlockId} {f : Failure} :
      d.run s = (reply, t) → Raised (next reply) t blocks f u → Raised (.act d next) s blocks f u
  | afterUse {form : Use} {b : BlockId} {inside : CursorId → Script}
      {next : Except Failure Value → Script} {s t u : Session} {outcome : Except Failure Value}
      {blocks : List BlockId} {f : Failure} :
      b.use form (fun c => (inside c).run) s = (outcome, t) → Raised (next outcome) t blocks f u →
      Raised (.use form b inside next) s blocks f u
  /-- It is raised inside the block. -/
  | inside {form : Use} {b : BlockId} {inside : CursorId → Script}
      {next : Except Failure Value → Script} {s t u : Session} {c : CursorId}
      {blocks : List BlockId} {f : Failure} :
      b.open s = (.ok c, t) → Raised (inside c) t blocks f u →
      (∀ g, (b.use form (fun c => (inside c).run) s).1 = .error g → next (.error g) = .fail g) →
      Raised (.use form b inside next) s (blocks ++ [b]) f u
  /-- The implicit check raises it after the body. -/
  | implicit {form : Use} {b : BlockId} {inside : CursorId → Script}
      {next : Except Failure Value → Script} {s t u : Session} {c : CursorId} {v : Value}
      {block : Block} {check : ImplicitCheck} {f : Failure} :
      b.open s = (.ok c, t) → (inside c).run t = (.ok v, u) → u.block? b = some block →
      block.config.implicit = some check → check.run u.world block.node = .error f →
      (∀ g, (b.use form (fun c => (inside c).run) s).1 = .error g → next (.error g) = .fail g) →
      Raised (.use form b inside next) s [b] f u

/-- A failure that leaves a block and is not caught is what comes of the script. -/
theorem run_use_of_leave {form : Use} {b : BlockId} {inside : CursorId → Script}
    {next : Except Failure Value → Script} {s t u : Session} {c : CursorId}
    {outcome : Except Failure Value} {g : Failure} (hopen : b.open s = (.ok c, t))
    (hbody : (inside c).run t = (outcome, u)) (hleave : (b.leave outcome u).1 = .error g)
    (huncaught : ∀ g, (b.use form (fun c => (inside c).run) s).1 = .error g →
      next (.error g) = .fail g) :
    ∃ v, (use form b inside next).run s = (.error g, v) ∧ u.Changes v := by
  have huse : b.use form (fun c => (inside c).run) s = (.error g, (b.leave outcome u).2) := by
    rw [use_apply hopen hbody, ← hleave]
    rfl
  refine ⟨(b.leave outcome u).2, ?_, (b.keeps_leave outcome).after u⟩
  rw [run_use huse, huncaught g (by rw [huse])]
  rfl

namespace Raised

variable {p : Script} {s t : Session} {blocks : List BlockId} {f : Failure}

theorem evolves (h : p.Raised s blocks f t) : s.Evolves t := by
  induction h with
  | fail => exact .refl
  | afterDeed hd _ ih => exact ((Deed.keeps _).of_eq hd).trans ih
  | afterUse huse _ ih => exact ((BlockId.keeps_use ..).of_eq huse).trans ih
  | inside hopen _ _ ih => exact .trans ((BlockId.keeps_open _).of_eq hopen) ih
  | implicit hopen hrun _ _ _ _ =>
      exact .trans ((BlockId.keeps_open _).of_eq hopen) ((Script.keeps _).of_eq hrun)

/-- All blocks that enclose a failure are open where it is raised. -/
theorem exists_openCursor? (h : p.Raised s blocks f t) {b : BlockId} (hb : b ∈ blocks) :
    ∃ cursor, t.openCursor? b = some cursor := by
  induction h with
  | fail => cases hb
  | afterDeed _ _ ih => exact ih hb
  | afterUse _ _ ih => exact ih hb
  | inside hopen hraised _ ih =>
      rcases List.mem_append.mp hb with hb | hb
      · exact ih hb
      · rw [List.mem_singleton.mp hb]
        exact hraised.evolves.exists_openCursor? hopen
  | implicit hopen hrun _ _ _ _ =>
      rw [List.mem_singleton.mp hb]
      exact Session.Evolves.exists_openCursor? ((Script.keeps _).of_eq hrun) hopen

/-- What comes of the script is what the enclosing blocks make of the failure, one after the other. -/
theorem run_eq (h : p.Raised s blocks f t) :
    ∃ u, p.run s = (.error (t.settleAll blocks f), u) ∧ t.Changes u := by
  have hopened : ∀ {p s blocks f t}, Raised p s blocks f t → ∀ b ∈ blocks,
      ∃ cursor, t.openCursor? b = some cursor := fun h b hb => h.exists_openCursor? hb
  induction h with
  | @fail f s => exact ⟨s, rfl, .refl⟩
  | afterDeed hd _ ih =>
      rw [run_act hd]
      exact ih
  | afterUse huse _ ih =>
      rw [run_use huse]
      exact ih
  | @inside form b inside next s t u c blocks f hopen hraised huncaught ih =>
      obtain ⟨v, hrun, hchanges⟩ := ih
      obtain ⟨cursor, hcursor⟩ := hopened (.inside hopen hraised huncaught) b (by simp)
      -- The block finds its cursor again when the failure gets to it.
      obtain ⟨block, d, later, hb, hd, hlater, -⟩ := hchanges.grows.openCursor? hcursor
      have hlaterOpen := Session.openCursor?_of_cursor hb hd hlater
      have hleave : (b.leave (.error (u.settleAll blocks f) : Except Failure Value) v).1 =
          .error (u.settleAll (blocks ++ [b]) f) := by
        rw [BlockId.leave_error hb hd hlater, ← Session.settle_of_openCursor? hlaterOpen,
          hchanges.settle_eq hcursor hlaterOpen]
        simp only [Session.settleAll, List.foldl_append, List.foldl_cons, List.foldl_nil]
      obtain ⟨w, hw, hlast⟩ := run_use_of_leave hopen hrun hleave huncaught
      exact ⟨w, hw, hchanges.trans hlast⟩
  | @implicit form b inside next s t u c v block check f hopen hrun hblock hi hf huncaught =>
      obtain ⟨cursor, hcursor⟩ :=
        hopened (.implicit hopen hrun hblock hi hf huncaught) b List.mem_cons_self
      obtain ⟨block', d, later, hb, hd, hlater, -⟩ :=
        (Session.Changes.grows (.refl : u.Changes u)).openCursor? hcursor
      rw [hblock] at hb
      cases hb
      have hopenCursor := Session.openCursor?_of_cursor hblock hd hlater
      have hleave : (b.leave (.ok v) u).1 = .error (u.settleAll [b] f) := by
        rw [BlockId.leave_of_implicit hblock hd hlater hi hf,
          ← Session.settle_of_openCursor? hopenCursor]
        rfl
      exact run_use_of_leave hopen hrun hleave huncaught

end Raised

end Script

/-! ## The location -/

theorem Cursor.settle_of_dumpOf {cursor : Cursor} {w : World} {f : Failure}
    (hf : f.wantsLocation = true) {dump : Option String}
    (hdump : Location.dumpOf cursor.config w cursor.path = .ok dump) :
    cursor.settle w f =
      f.located ⟨cursor.path, Location.namesOf cursor.config w cursor.path, dump⟩ := by
  rw [Cursor.settle, if_pos hf, Config.locate, Location.of, hdump]
  rfl

theorem Cursor.settle_of_dumpOf_error {cursor : Cursor} {w : World} {f g : Failure}
    (hf : f.wantsLocation = true)
    (hdump : Location.dumpOf cursor.config w cursor.path = .error g) : cursor.settle w f = g := by
  rw [Cursor.settle, if_pos hf, Config.locate, Location.of, hdump]
  rfl

/-- The text of an assertion with its location. -/
theorem Failure.text_located (f : Failure) {place : Location} (hnames : place.names ≠ []) :
    (f.located place).text = "At /" ++ "/".intercalate (place.names.map (·.text)) ++ ": " ++
      (if f.text.isEmpty then "No explanation provided" else f.text) ++
      (match place.dump with
        | none => ""
        | some dump => "\n\n" ++ Location.banner ++ "\n\n" ++ dump) := by
  have hpath : Location.pathText place.names =
      "/" ++ "/".intercalate (place.names.map (·.text)) := by
    cases h : place.names with
    | nil => exact absurd h hnames
    | cons name names => rfl
  have hat : "At /" = "At " ++ "/" := by decide
  have htext : (Mismatch.explained f.asCause).text =
      if f.text.isEmpty then "No explanation provided" else f.text := rfl
  show place.message _ = _
  rw [Location.message, hpath, htext, hat]
  cases place.dump with
  | none => simp only [String.append_assoc, String.append_empty]
  | some dump => simp only [String.append_assoc]

/-- Whatever using a block fails with has its location if it is an assertion, unless the adapter or the
printer failed with it. -/
theorem BlockId.fails_of_use {b : BlockId} {form : Use} {inside : CursorId → Script} {s : Session}
    (hs : s.Sound) {g : Failure} (h : (b.use form (fun c => (inside c).run) s).1 = .error g)
    (hg : g.wantsLocation = true) :
    ∃ block, s.block? b = some block ∧ (block.config.Fails s.world g ∨
      block.config.Fails (b.use form (fun c => (inside c).run) s).2.world g) := by
  rcases hopen : b.open s with ⟨f | c, t⟩
  · rw [Script.use_of_open_error hopen] at h
    cases h
    obtain ⟨block, hb, hfails⟩ := fails_of_open hs hopen hg
    exact ⟨block, hb, .inl hfails⟩
  -- The body has run inside, and the block still has the cursor it was opened with.
  rcases hbody : (inside c).run t with ⟨outcome, u⟩
  rw [Script.use_apply hopen hbody] at h ⊢
  have hinside : t.Evolves u := (inside c).keeps.of_eq hbody
  have hevolves : s.Evolves u := .trans (b.keeps_open.of_eq hopen) hinside
  obtain ⟨opened, cursor, hopened, hc, hcursor⟩ := openCursor?_of_open hopen
  have hb := hinside.grows.block_eq hopened hc
  obtain ⟨later, hlater, howns⟩ := (hevolves.sound hs).owned hb hc
  have hdump := dumpOf_of_leave hb hc hlater h hg
  have hworld : (b.leave outcome u).2.world = u.world :=
    (b.keeps_leave (R := fun s t => t.world = s.world) outcome).after u
  obtain ⟨block, hblock⟩ : ∃ block, s.block? b = some block := by
    cases hmissing : s.block? b with
    | some block => exact ⟨block, rfl⟩
    | none =>
        rw [open_of_missing hmissing] at hopen
        cases hopen
  have hgrown := hevolves.grows.block_of_both hblock hb
  refine ⟨block, hblock, .inr ?_⟩
  rw [hworld, ← hgrown.config, ← howns.config]
  exact Config.fails_of_dumpOf hdump

/-! ## Located once -/

/-- A failure is a mismatch that tells of another one: at a path, with the text of the other one behind it, or
words that stand for an empty one, with a dump if there is one, and with the other one as its cause. -/
structure Failure.Locates (g f : Failure) (names : List String) (dump : Option String) : Prop where
  kind : g.kind = .mismatch
  path : g.path = some names
  text : g.text = "At /" ++ "/".intercalate names ++ ": " ++
    (if f.text.isEmpty then "No explanation provided" else f.text) ++
    (match dump with
      | none => ""
      | some dump => "\n\n" ++ Location.banner ++ "\n\n" ++ dump)
  cause : g.cause = some ⟨f.kind, f.text⟩

theorem Failure.locates_located (f : Failure) {place : Location} (hnames : place.names ≠ []) :
    (f.located place).Locates f (place.names.map (·.text)) place.dump :=
  ⟨rfl, rfl, f.text_located hnames, rfl⟩

namespace Script

/-- What becomes of a failure that is raised inside blocks in the session `t`, the innermost block first. -/
structure Settles (p : Script) (s : Session) (blocks : List BlockId) (f : Failure) (t : Session) : Prop where
  /-- What comes of the script is what the blocks make of the failure. -/
  outcome : (p.run s).1 = .error (t.settleAll blocks f)
  /-- All of the blocks are open, and their paths lead from the root of the match to their nodes. -/
  opened : ∀ b ∈ blocks, ∃ cursor, t.openCursor? b = some cursor ∧ t.Route b cursor.path
  /-- Unless it is an assertion without a location, the failure passes as it is. -/
  other : f.wantsLocation = false → t.settleAll blocks f = f
  /-- An assertion without a location is located by the innermost block, and that passes all other blocks. -/
  located : ∀ b rest cursor, f.wantsLocation = true → blocks = b :: rest → t.openCursor? b = some cursor →
    ∀ dump, Location.dumpOf cursor.config t.world cursor.path = .ok dump →
      (t.settleAll blocks f).Locates f
        ((Location.namesOf cursor.config t.world cursor.path).map (·.text)) dump
  /-- If the dump fails, it is as if its failure had been raised outside of the innermost block. -/
  undumped : ∀ b rest cursor, f.wantsLocation = true → blocks = b :: rest → t.openCursor? b = some cursor →
    ∀ g, Location.dumpOf cursor.config t.world cursor.path = .error g →
      t.settleAll blocks f = t.settleAll rest g

/-- A raised failure is settled by the blocks around it. -/
theorem Raised.settles {p : Script} {s t : Session} {blocks : List BlockId} {f : Failure}
    (h : Raised p s blocks f t) (hs : s.Reachable) : p.Settles s blocks f t := by
  have hroute : ∀ {b cursor}, t.openCursor? b = some cursor → t.Route b cursor.path := by
    intro b cursor hcursor
    obtain ⟨block, c, later, hb, hc, hlater, hgrows⟩ :=
      (Session.Changes.grows (.refl : t.Changes t)).openCursor? hcursor
    rw [← hgrows.path]
    exact (hs.evolves h.evolves).sound.route hb hc hlater
  -- The innermost block is the first to settle the failure.
  have hfirst : ∀ {b rest cursor}, t.openCursor? b = some cursor →
      t.settleAll (b :: rest) f = t.settleAll rest (cursor.settle t.world f) := by
    intro b rest cursor hcursor
    rw [← Session.settle_of_openCursor? hcursor]
    rfl
  refine ⟨?outcome, ?opened, t.settleAll_of_other blocks, ?located, ?undumped⟩
  case outcome =>
    obtain ⟨u, hrun, -⟩ := h.run_eq
    rw [hrun]
  case opened =>
    intro b hb
    obtain ⟨cursor, hcursor⟩ := h.exists_openCursor? hb
    exact ⟨cursor, hcursor, hroute hcursor⟩
  case located =>
    rintro b rest cursor hf rfl hcursor dump hdump
    have hnames : Location.namesOf cursor.config t.world cursor.path ≠ [] := by
      intro hnil
      exact (hroute hcursor).ne_nil (List.map_eq_nil_iff.mp hnil)
    rw [hfirst hcursor, Cursor.settle_of_dumpOf hf hdump, Session.settleAll_of_other _ _
      (Failure.wantsLocation_located ..)]
    exact f.locates_located hnames
  case undumped =>
    rintro b rest cursor hf rfl hcursor g hg
    rw [hfirst hcursor, Cursor.settle_of_dumpOf_error hf hg]

/-- A failure that is raised inside blocks and not caught is settled by them: it leaves all of them as it is,
unless it is an assertion without a location, which gets one from the innermost block and leaves all others
with it.

So no assertion without a location ever comes of using a block, but for those that an adapter or a
printer failed with. -/
theorem located_once {s : Session} (hs : s.Reachable) :
    (∀ p blocks f t, Raised p s blocks f t → p.Settles s blocks f t) ∧
    ∀ (form : Use) (b : BlockId) (inside : CursorId → Script) g,
      (b.use form (fun c => (inside c).run) s).1 = .error g → g.wantsLocation = true →
      ∃ block, s.block? b = some block ∧ (block.config.Fails s.world g ∨
        block.config.Fails (b.use form (fun c => (inside c).run) s).2.world g) :=
  ⟨fun _ _ _ _ h => h.settles hs, fun _ _ _ _ hg hwants => BlockId.fails_of_use hs.sound hg hwants⟩

/-- An assertion without a text. -/
def boom : Failure := .raised .assertion "" none none

/-- Matches the pair, skips its first child, and fails in a block around the second. -/
def sample : Script :=
  visit (.matching Sample.config ⟨Sample.pair, false⟩ Sample.root) .called
    (fun c => act (.skip c 1) fun _ => visit (.childBlock c ⟨Sample.leaf, false⟩) .entered
      (fun _ => fail boom) fun
        | .ok v => give v
        | .error f => fail f) fun
    | .ok v => give v
    | .error f => fail f

/-- The session in which the sample fails. -/
def sampleSession : Session :=
  ((do
    let c ← (← Sample.config.matching ⟨Sample.pair, false⟩ Sample.root).open
    c.skip 1
    (← c.childBlock ⟨Sample.leaf, false⟩).open : Run CursorId) Sample.session).2

theorem raised_sample : sample.Raised Sample.session [⟨1⟩, ⟨0⟩] boom sampleSession := by
  refine .afterDeed rfl ?_
  change Raised _ _ ([⟨1⟩] ++ [⟨0⟩]) _ _
  refine .inside rfl (.afterDeed rfl (.afterDeed rfl ?_)) fun _ _ => rfl
  change Raised _ _ ([] ++ [⟨1⟩]) _ _
  exact .inside rfl .fail fun _ _ => rfl

/-- The sample ends with a mismatch at the second leaf. -/
theorem located_once_sample :
    Sample.session.Reachable ∧ sample.Raised Sample.session [⟨1⟩, ⟨0⟩] boom sampleSession ∧
      boom.wantsLocation = true ∧ ∃ g, (sample.run Sample.session).1 = .error g ∧
        g.kind = .mismatch ∧ g.path = some ["Pair", "Leaf"] ∧
        g.text = "At /Pair/Leaf: No explanation provided" ∧ g.cause = some ⟨.assertion, ""⟩ := by
  refine ⟨Session.reachable_fresh _, raised_sample, rfl, ?_⟩
  have hsettles := (located_once (Session.reachable_fresh _)).1 _ _ _ _ raised_sample
  have hlocates := hsettles.located _ _ _ rfl rfl rfl none rfl
  exact ⟨_, hsettles.outcome, hlocates.kind, hlocates.path, hlocates.text, hlocates.cause⟩

end Script

end TreeShape
