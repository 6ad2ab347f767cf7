import Mathlib.Logic.Relation
import TreeShape.Proofs.Matching.Leaving

/-!
# All that matching does to a session

Whatever scripts do, matching changes a session in seven ways only, `Session.Change`, each under a
condition that was checked before.  A relation between sessions that every change respects,
`Session.IsStable`, is kept by every step of matching, and by every step that is made of such steps,
whether it succeeds or fails.  So an invariant of sessions is shown by going through seven cases,
without a look at scripts or at the steps themselves; `Session.Grows` and `Session.Sound` are shown in
this way, and so are the bounds of the counts.
-/

namespace TreeShape

open Run

/-- The block for a node that no cursor leads to. -/
def Config.rootBlock (c : Config) (e : Expected) (parentPath : List Node) (n : Node) : Block :=
  ⟨c, e, parentPath, none, n, none⟩

/-- A change that matching makes to a session. -/
inductive Session.Change (s : Session) : Session → Prop
  | silent {t : Session} : s.Silent t → Change s t
  | take {b : BlockId} {block : Block} {c : CursorId} {cursor : Cursor} {n : Node} :
      s.block? b = some block → block.cursor = none → block.parentCursor = some c →
      s.cursor? c = some cursor → cursor.IsUsable → cursor.children[cursor.next]? = some n →
      Change s (s.take b c n)
  | attach {b : BlockId} {block : Block} {children : List Node} :
      s.block? b = some block → block.cursor = none →
      (∀ p, block.parentCursor = some p → ∃ cursor, s.cursor? p = some cursor ∧ cursor.IsUsable) →
      (block.config.view s.world).ask block.node = .ok children →
      Change s (s.attach b block block.node children)
  | release {b : BlockId} {block : Block} {c : CursorId} :
      s.block? b = some block → block.cursor = some c → Change s (s.release c block.parentCursor)
  | rootBlock (c : Config) (e : Expected) (parentPath : List Node) (n : Node) :
      Change s (s.addBlock (c.rootBlock e parentPath n))
  | childBlock {c : CursorId} {cursor : Cursor} (e : Expected) :
      s.cursor? c = some cursor → cursor.IsUsable → cursor.ignoring = false →
      Change s (s.addBlock (c.blockFor cursor e))
  | advance {c : CursorId} {cursor : Cursor} {count : Nat} :
      s.cursor? c = some cursor → cursor.IsUsable → cursor.ignoring = false →
      cursor.next + count ≤ cursor.children.length →
      Change s (s.modifyCursor c fun old => { old with next := cursor.next + count })

/-- A relation that holds of sequences of changes because it holds of each. -/
class Session.IsStable (R : Session → Session → Prop) : Prop extends Session.IsCarried R where
  change {s t : Session} : s.Change t → R s t

/-- What any number of changes lead to. -/
abbrev Session.Changes : Session → Session → Prop := Relation.ReflTransGen Session.Change

instance : Session.IsStable Session.Changes where
  silent h := .single (.silent h)
  trans := .trans
  change := .single

/-! ## Steps of matching -/

section

variable {α : Type} {R : Session → Session → Prop} [Session.IsStable R]

/-- A block that has taken its node is not open yet, and its parent's cursor can still be used. -/
theorem BlockId.takes_change {s taken : Session} {b : BlockId} {block : Block} {n : Node}
    (h : s.block? b = some block) (hc : block.cursor = none) (ht : Takes s b block n taken) :
    R s taken ∧ ∀ p, block.parentCursor = some p →
      ∃ cursor, taken.cursor? p = some cursor ∧ cursor.IsUsable := by
  cases ht with
  | root hp =>
      refine ⟨Session.IsCarried.refl s, ?_⟩
      intro p hparent
      rw [hp] at hparent
      cases hparent
  | child hp hcursor hu hn =>
      refine ⟨Session.IsStable.change (.take h hc hp hcursor hu hn), ?_⟩
      intro p hparent
      rw [hp] at hparent
      cases hparent
      rw [Session.cursor?_take, if_pos rfl, hcursor]
      exact ⟨_, rfl, hu.1, hu.2⟩

/-- A block that has opened holds the node that it took, and its cursor stands there, with the children that
the node has told. -/
theorem BlockId.cursor_of_open {s t : Session} {b : BlockId} {c : CursorId}
    (h : b.open s = (.ok c, t)) :
    ∃ block n children taken, s.block? b = some block ∧ block.cursor = none ∧
      Takes s b block n taken ∧ c = s.freshCursor ∧
      t.block? b = some { block with node := n, cursor := some c } ∧
      t.cursor? c = some (block.cursorFor n children) ∧
      (block.config.view s.world).ask n = .ok children := by
  cases opening_of_eq h with
  | @opened block n children taken looked hb hc ht hsilent hask =>
      obtain ⟨htaken, -, hfresh⟩ := takes_block hb ht
      obtain ⟨-, hparent⟩ := takes_change (R := Session.Changes) hb hc ht
      have hfresh' : looked.freshCursor = s.freshCursor := hsilent.freshCursor.trans hfresh
      refine ⟨block, n, children, taken, hb, hc, ht, rfl, ?_, ?_, hask⟩
      · rw [Session.block?_attach, if_pos rfl, hsilent.block?, htaken, hfresh']
        rfl
      · rw [Session.cursor?_attach, if_pos hfresh'.symm]
        · rfl
        · intro p hp
          obtain ⟨cursor, hcursor, -⟩ := hparent p hp
          rw [hsilent.freshCursor]
          exact Session.ne_freshCursor hcursor

theorem BlockId.keeps_open (b : BlockId) : Keeps R b.open := by
  refine ⟨fun s => ?_⟩
  rcases hopen : b.open s with ⟨outcome, t⟩
  cases opening_of_eq hopen with
  | refused => exact Session.IsCarried.refl s
  | failed f h hc ht hsilent =>
      exact Session.IsCarried.trans (takes_change h hc ht).1 (Session.IsCarried.silent hsilent)
  | @opened block n children taken looked h hc ht hsilent hask =>
      obtain ⟨hstep, husable⟩ := takes_change (R := R) h hc ht
      obtain ⟨hb, hworld, -⟩ := takes_block h ht
      have hblock : looked.block? b = some { block with node := n } := by
        rw [hsilent.block? b, hb]
      have hask' : (block.config.view looked.world).ask n = .ok children := by
        rw [hsilent.world, hworld, hask]
      have hattach : looked.Change (looked.attach b { block with node := n } n children) := by
        apply Session.Change.attach hblock hc ?_ hask'
        intro p hp
        obtain ⟨cursor, hcursor, hu⟩ := husable p hp
        exact ⟨cursor, by rw [hsilent.cursor? p, hcursor], hu⟩
      exact Session.IsCarried.trans hstep
        (Session.IsCarried.trans (Session.IsCarried.silent hsilent)
          (Session.IsStable.change hattach))

theorem BlockId.keeps_exit (b : BlockId) (failure : Option Failure) :
    Keeps R (b.exit failure) :=
  keeps_exit_of_release (fun hb hc => Session.IsStable.change (.release hb hc)) failure

theorem BlockId.keeps_leave (b : BlockId) (outcome : Except Failure α) :
    Keeps R (b.leave outcome) :=
  (b.keeps_exit _).bind fun _ => keeps_resume outcome

/-- A block keeps what its body keeps. -/
theorem BlockId.keeps_within (b : BlockId) {body : CursorId → Run α}
    (hbody : ∀ c, Keeps R (body c)) : Keeps R (b.within body) := by
  rw [within_eq]
  exact b.keeps_open.bind fun c => (hbody c).attempt.bind fun outcome => b.keeps_leave outcome

theorem BlockId.keeps_run (b : BlockId) {script : CursorId → Run α}
    (hscript : ∀ c, Keeps R (script c)) : Keeps R (b.run script) := by
  rw [run_eq_within]
  exact b.keeps_within hscript

theorem Config.keeps_blockAt (c : Config) (e : Expected) (parentPath : List Node) (n : Node) :
    Keeps R (c.blockAt e parentPath n) :=
  ⟨fun _ => Session.IsStable.change (.rootBlock c e parentPath n)⟩

/-- Matches start at any node that is there. -/
theorem Config.checkRoot_of_ne {c : Config} {e : Expected} {root : Node} {s : Session}
    (h : root ≠ .absent) : c.checkRoot e root s = (.ok (), s) := by
  have habsent : ¬ root.isAbsent = true := by simpa using h
  rw [checkRoot, if_neg habsent]
  rfl

theorem Config.keeps_checkRoot (c : Config) (e : Expected) (root : Node) :
    Keeps R (c.checkRoot e root) := by
  unfold Config.checkRoot
  split
  · exact keeps_world.bind fun _ => keeps_throw _
  · exact keeps_pure _

/-- Starting a match makes a block for the root. -/
theorem Config.matching_apply {c : Config} {e : Expected} {root : Node} (hroot : root ≠ .absent)
    (s : Session) :
    c.matching e root s = (.ok s.freshBlock, s.addBlock (c.rootBlock e [] root)) := by
  rw [matching, bind_apply, checkRoot_of_ne hroot, andThen_ok]
  rfl

/-- Making the block for a tree fails and changes nothing, or there is one more block. -/
theorem Config.matching_cases (c : Config) (e : Expected) (root : Node) (s : Session) :
    (∃ f, c.matching e root s = (.error f, s)) ∨
      c.matching e root s = (.ok s.freshBlock, s.addBlock (c.rootBlock e [] root)) := by
  by_cases hroot : root = .absent
  · subst hroot
    exact .inl ⟨_, rfl⟩
  · exact .inr (matching_apply hroot s)

theorem Config.keeps_matching (c : Config) (e : Expected) (root : Node) :
    Keeps R (c.matching e root) :=
  (c.keeps_checkRoot e root).bind fun _ => c.keeps_blockAt e [] root

theorem CursorId.keeps_childBlock (c : CursorId) (e : Expected) : Keeps R (c.childBlock e) := by
  refine ⟨fun s => ?_⟩
  rcases c.childBlock_cases e s with ⟨f, hf⟩ | ⟨cursor, hcursor, hu, hm, hok⟩
  · rw [hf]
    exact Session.IsCarried.refl s
  · rw [hok]
    exact Session.IsStable.change (.childBlock e hcursor hu hm)

theorem CursorId.keeps_skip (c : CursorId) (count : Int) : Keeps R (c.skip count) := by
  refine ⟨fun s => ?_⟩
  rcases c.skip_cases count s with ⟨f, hf⟩ | ⟨cursor, hcursor, hu, hm, hle, hok⟩
  · rw [hf]
    exact Session.IsCarried.refl s
  · rw [hok]
    exact Session.IsStable.change (.advance hcursor hu hm hle)

theorem CursorId.keeps_extractFromChild (c : CursorId) (e : Expected) {script : CursorId → Run α}
    (hscript : ∀ c, Keeps R (script c)) : Keeps R (c.extractFromChild e script) :=
  (c.keeps_childBlock e).bind fun b => b.keeps_run hscript

theorem CursorId.keeps_child (c : CursorId) (e : Expected) {script : CursorId → Run α}
    (hscript : ∀ c, Keeps R (script c)) : Keeps R (c.child e script) := by
  refine c.keeps_extractFromChild e fun inner => ?_
  exact ((hscript inner).bind fun _ => keeps_pure _).bind fun _ =>
    (Run.keeps_cursor inner).bind fun _ => keeps_pure _

end

end TreeShape
