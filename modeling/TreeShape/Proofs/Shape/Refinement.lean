import TreeShape.Proofs.Sample
import TreeShape.Proofs.Shape.Bodies

/-!
# Matching decides conforming

A pattern that is run as a script succeeds on a tree exactly if the tree conforms to the pattern, and
then returns the root.  Otherwise it fails, with a misuse if an item below a node whose children do not
matter is the first thing that is wrong, and with a mismatch if it is something else, unless the adapter
or the printer fails before that.

The cursors, which are all that matching remembers, never appear in the statement: what they do is
hidden in `Follows`.  `Items.follows` is an induction over the items, whose three cases are the three
kinds of bodies; at the root there is no cursor above and no parent to agree with, and an empty place is
refused before any block is made.
-/

namespace TreeShape

open Run

/-- The items of a pattern, run as a script, are followed. -/
theorem Items.follows (items : Items) : Follows (fun c => items.run c) items := by
  induction items with
  | done => exact fun _ => .pure ()
  | skip count items ih => exact fun c => (ih c).skip count
  | child e inside items ihinside ih =>
      intro c
      have hrun : (Items.child e inside items).run c = (do
          let _ ← c.child e fun inner => inside.run inner
          items.run c) := discard_bind ..
      show FollowsAt c ((Items.child e inside items).run c) _
      rw [hrun, c.child_eq_within]
      exact .child (fun d => (ihinside d).tellNode) (fun _ => (ih c).keeps) fun _ _ _ _ => ih c

/-! ## The root -/

namespace BlockId

variable {α : Type} {s : Session} {b : BlockId}

/-- The cursor of a block that was opened without a parent's cursor stands at the block's node. -/
theorem open_root {block : Block} {c : CursorId} {t : Session} (hb : s.block? b = some block)
    (hp : block.parentCursor = none) (h : b.open s = (.ok c, t)) :
    ∃ children, t.cursor? c = some (block.cursorFor block.node children) := by
  obtain ⟨block', n, children, taken, hb', -, ht, -, -, hcursor, -⟩ := cursor_of_open h
  rw [hb] at hb'
  cases hb'
  cases ht with
  | root => exact ⟨children, hcursor⟩
  | child hparent =>
      rw [hp] at hparent
      cases hparent

end BlockId

namespace Config

variable {c : Config} {e : Expected} {root n : Node} {s : Session} {script : CursorId → Run Unit}

/-- Matching a tree comes down to a block around the script. -/
theorem matchTree_apply (hroot : root ≠ .absent) :
    c.matchTree e root script s = s.freshBlock.within (fun cursor => do
        discard (script cursor)
        return (← Run.cursor cursor).node)
      (s.addBlock (c.rootBlock e [] root)) := by
  have hblock : c.blockAt e [] root s = (.ok s.freshBlock, s.addBlock (c.rootBlock e [] root)) := rfl
  rw [matchTree, extract, bind_apply, checkRoot_of_ne hroot, andThen_ok, execute, bind_apply, hblock, andThen_ok,
    BlockId.run_eq_within]

/-- A match that returns a node returns the root. -/
theorem matchTree_eq_root (hscript : ∀ cursor, Keeps Session.Grows (script cursor))
    (hroot : root ≠ .absent) (h : (c.matchTree e root script s).1 = .ok n) : n = root := by
  rw [matchTree_apply hroot] at h
  obtain ⟨cursor, t, hopen, hbody⟩ := BlockId.exists_of_within_ok h
  have hb := s.block?_freshBlock (c.rootBlock e [] root)
  obtain ⟨children, hcursor⟩ := BlockId.open_root hb rfl hopen
  have hgrows := (hscript cursor).after t
  rw [discard_bind, bind_apply] at hbody
  rcases hrun : script cursor t with ⟨_ | _, u⟩ <;> rw [hrun] at hbody hgrows
  · cases hbody
  · obtain ⟨later, hlater, hlaterGrows⟩ := hgrows.cursor hcursor
    rw [andThen_ok, bind_apply, cursor_apply hlater] at hbody
    cases hbody
    exact hlaterGrows.node

end Config

/-! ## Matching and conforming -/

namespace Pattern

/-- What comes of matching a tree with a pattern. -/
theorem matchTree_visited (p : Pattern) {c : Config} {root : Node} (hi : c.implicit = none)
    (hroot : root ≠ .absent) (s : Session) :
    p.Visited c none root root (s.addBlock (c.rootBlock p.expected [] root))
      (p.matchTree c root s).1 (p.matchTree c root s).2 := by
  have hb := s.block?_freshBlock (c.rootBlock p.expected [] root)
  rw [matchTree, Config.matchTree_apply hroot]
  exact BlockId.visited (fun d => (p.items.follows d).tellNode) hb rfl (.root rfl)
    (Config.awaits_rootBlock hi ..)

/-- A match with a pattern succeeds just if the tree conforms to the pattern. -/
theorem matchTree_succeeds_iff (p : Pattern) {c : Config} {root : Node} (hi : c.implicit = none)
    (hroot : root ≠ .absent) (s : Session) :
    (∃ n, (p.matchTree c root s).1 = .ok n) ↔ p.Conforms (c.view s.world) none root := by
  have hvisited := p.matchTree_visited hi hroot s
  rcases hrun : p.matchTree c root s with ⟨outcome, t⟩
  rw [hrun] at hvisited
  cases hvisited with
  | conforms hconforms => exact iff_of_true ⟨_, rfl⟩ hconforms
  | failed hverdict => exact iff_of_false (by simp) hverdict.not_conforms

/-- Matching a tree with a pattern returns the root if and only if the tree conforms to the pattern.
Otherwise it fails: with what the adapter or the printer failed with, or else with a misuse if an item
below a node whose children do not matter was met first, and with a mismatch if not. -/
theorem matchTree_refines (p : Pattern) (c : Config) (root : Node) (s : Session)
    (hi : c.implicit = none) (hroot : root ≠ .absent) :
    ((p.matchTree c root s).1 = .ok root ↔ p.Conforms (c.view s.world) none root) ∧
      (¬ p.Conforms (c.view s.world) none root → ∃ f, (p.matchTree c root s).1 = .error f ∧
        (c.Refuses s.world root f ∨
          f.kind = .mismatch ∧ ¬ p.Misuses (c.view s.world) none root ∨
          f.kind = .misuse ∧ p.Misuses (c.view s.world) none root)) := by
  have hvisited := p.matchTree_visited hi hroot s
  have hkeeps : ∀ cursor, Keeps Session.Grows (p.items.run cursor) :=
    fun cursor => ⟨fun t => ((p.items.follows cursor).keeps.after t).grows⟩
  rcases hrun : p.matchTree c root s with ⟨outcome, t⟩
  rw [hrun] at hvisited
  cases hvisited with
  | @conforms n _ hconforms =>
      have hn : n = root := Config.matchTree_eq_root hkeeps hroot (by
        rw [show c.matchTree p.expected root (fun cursor => p.items.run cursor) s = (.ok n, t)
          from hrun])
      rw [hn]
      exact ⟨iff_of_true rfl hconforms, fun h => absurd hconforms h⟩
  | @failed f _ hverdict =>
      refine ⟨iff_of_false (by simp) hverdict.not_conforms, fun _ => ⟨f, rfl, ?_⟩⟩
      cases hverdict with
      | refused hrefuses => exact .inl hrefuses
      | mismatch place reason _ hmisuses => exact .inr (.inl ⟨rfl, hmisuses⟩)
      | misuse place reason _ hmisuses => exact .inr (.inr ⟨rfl, hmisuses⟩)

/-- A pair whose first child does not matter and whose second one is a leaf without children. -/
def sample : Pattern :=
  ⟨⟨Sample.pair, false⟩, .skip 1 (.child ⟨Sample.leaf, false⟩ .done .done)⟩

theorem conforms_sample : sample.Conforms (Sample.config.view Sample.world) none Sample.root := by
  refine ⟨⟨rfl, rfl⟩, _, rfl, ?_⟩
  exact ⟨by decide, ⟨⟨rfl, rfl⟩, _, rfl, rfl⟩, rfl⟩

/-- The sample pattern matches the sample tree. -/
theorem matchTree_sample :
    Sample.config.implicit = none ∧ Sample.root ≠ .absent ∧
      (sample.matchTree Sample.config Sample.root Sample.session).1 = .ok Sample.root :=
  ⟨rfl, by decide,
    (matchTree_refines sample Sample.config Sample.root Sample.session rfl (by decide)).1.mpr
      conforms_sample⟩

end Pattern

end TreeShape
