import TreeShape.Proofs.Activity.Attempts
import TreeShape.Proofs.Shape.Bodies
import TreeShape.Proofs.Shape.Spec

/-!
# Running a spec decides what it demands

A tree is matched as a spec says just if the spec admits the tree, for any adapter and with the implicit
checks of the configuration.

## Strategy

`Spec.Ran` carries this through the steps at one cursor, and `Run.Decides` through blocks.  As every
cursor that was there before a block is as it was after it, what happens inside a child makes no
difference to what comes next.  Both say more than who succeeds: the induction over the spec,
`Spec.runs`, needs that a spec which succeeds leaves the world and the other cursors alone, and which
children it has left over.

At a block three things decide: the node has to fit and to tell its children (`accept_fits`), the spec
has to account for the children, and what it leaves of them has to be nothing unless children do not
matter, with an implicit check in between (`leave_accounted`).  That a failure is no accident needs
`Accounts.left_unique`: a spec cannot leave other children another time.
-/

namespace TreeShape

open Run

/-- Something comes to a value, and leaves the world and the cursors that were there as they were, if a
condition holds, and fails if it does not. -/
inductive Run.Decides (condition : Prop) (v : Value) (s : Session) :
    Except Failure Value → Session → Prop
  | holds {t : Session} : condition → t.world = s.world →
      (∀ d old, s.cursor? d = some old → t.cursor? d = some old) → Decides condition v s (.ok v) t
  | fails {f : Failure} {t : Session} : ¬ condition → Decides condition v s (.error f) t

/-- What decides something succeeds just if it is so, and comes to the one value. -/
theorem Run.Decides.ok_iff {condition : Prop} {v v' : Value} {s t : Session}
    {outcome : Except Failure Value} (h : Run.Decides condition v s outcome t) :
    outcome = .ok v' ↔ condition ∧ v' = v := by
  cases h with
  | holds hcondition => simp [hcondition, eq_comm]
  | fails hcondition => exact iff_of_false (by simp) fun h => hcondition h.1

/-- What is known of the cursor of a node while nothing else is matched. -/
structure Cursor.Sees (cursor : Cursor) (w : World) : Prop where
  usable : cursor.IsUsable
  asked : (cursor.config.view w).ask cursor.node = .ok cursor.children
  path : cursor.path.getLast? = some cursor.node
  next : cursor.next ≤ cursor.children.length

/-- What comes of doing to a cursor what a spec says. -/
inductive Spec.Ran (spec : Spec) (s : Session) (c : CursorId) (cursor : Cursor) :
    Except Failure Value → Session → Prop
  | met {t : Session} {next : Nat} : next ≤ cursor.children.length →
      spec.Accounts cursor.config s.world cursor.node cursor.ignoring
        (cursor.children.drop cursor.next) (cursor.children.drop next) →
      t.world = s.world → t.cursor? c = some { cursor with next := next } →
      (∀ d old, d ≠ c → s.cursor? d = some old → t.cursor? d = some old) →
      Ran spec s c cursor (.ok .nothing) t
  | unmet {f : Failure} {t : Session} :
      (∀ left, ¬ spec.Accounts cursor.config s.world cursor.node cursor.ignoring
        (cursor.children.drop cursor.next) left) →
      Ran spec s c cursor (.error f) t

/-- Running a spec does to every cursor what the spec says. -/
def Spec.Runs (spec : Spec) : Prop :=
  ∀ {c : CursorId} {s : Session} {cursor : Cursor}, s.cursor? c = some cursor →
    cursor.Sees s.world → spec.Ran s c cursor (spec.run c s).1 (spec.run c s).2

/-! ## Blocks -/

namespace BlockId

variable {s t : Session} {b : BlockId} {block : Block} {n : Node}

/-- A node is accepted just if it fits and tells its children. -/
theorem accept_fits (hb : s.block? b = some block)
    (hparent : ∀ p, block.parentPath.getLast? = some p →
      ∃ nodes, (block.config.view s.world).ask p = .ok nodes) (n : Node) :
    (∃ f t, b.accept n s = (.error f, t) ∧
        ¬ ((block.config.view s.world).Fits block.parentPath.getLast? block.expected n ∧
          ∃ below, (block.config.view s.world).ask n = .ok below)) ∨
      (block.config.view s.world).Fits block.parentPath.getLast? block.expected n ∧
        ∃ e below, (block.config.view s.world).ask n = .ok below ∧
          b.accept n s = (.ok s.freshCursor, (s.record e).attach b block n below) := by
  rcases haccept : b.accept n s with ⟨outcome, t⟩
  cases accepting_of_eq hb haccept with
  | unlabelled hl => exact absurd hl (labelFor_ne_error hparent)
  | untyped htype => exact .inl ⟨_, s, rfl, by simp [View.Fits, htype]⟩
  | wrongType _ htype _ => exact .inl ⟨_, s, rfl, by simp [View.Fits, htype]⟩
  | wrongParent _ _ hp hlink _ => exact .inl ⟨_, s, rfl, by simp [View.Fits, hp, hlink]⟩
  | childless _ _ _ hask => exact .inl ⟨_, _, rfl, by simp [hask]⟩
  | attached htype hlink _ hask => exact .inr ⟨⟨htype, hlink⟩, _, _, hask, rfl⟩

/-- After a body that came to a value, a block is left without a failure just if its node passes the
implicit check and its children were counted. -/
theorem leave_ok_iff {c : CursorId} {cursor : Cursor} (hb : t.block? b = some block)
    (hc : block.cursor = some c) (hcursor : t.cursor? c = some cursor) (v : Value) :
    (b.leave (.ok v) t).1 = .ok v ↔ block.config.Passes t.world block.node ∧
      (cursor.ignoring = true ∨ cursor.next = cursor.children.length) := by
  -- The count of children comes after the implicit check, whether there is one or not.
  have hcounted : (if cursor.ignoring || cursor.next == cursor.children.length then .ok v
      else cursor.config.mismatch t.world cursor.path
        (.childCount cursor.next cursor.children.length)) = .ok v ↔
      (cursor.ignoring = true ∨ cursor.next = cursor.children.length) := by
    obtain ⟨f, hf⟩ := Config.exists_mismatch_eq (α := Value) cursor.config t.world cursor.path
      (.childCount cursor.next cursor.children.length)
    rw [hf]
    split
    · next h => exact iff_of_true rfl (by simpa using h)
    · next h => exact iff_of_false (by simp) (by simpa using h)
  unfold Config.Passes
  cases hi : block.config.implicit with
  | none =>
      rw [leave_ok hb hc hi hcursor, hcounted]
      simp
  | some check =>
      cases hrun : check.run t.world block.node with
      | error f =>
          rw [leave_of_implicit hb hc hcursor hi hrun]
          simp [hrun]
      | ok _ =>
          rw [leave_of_passed hb hc hcursor hi hrun, hcounted]
          simp [hrun]

/-- What is left of the children when a spec has been run decides, and so does the implicit check. -/
theorem leave_accounted {spec : Spec} {c : CursorId} {below : List Node} {next : Nat}
    (hb : t.block? b = some block) (hc : block.cursor = some c)
    (hcursor : t.cursor? c = some { block.cursorFor block.node below with next := next })
    (hle : next ≤ below.length)
    (haccounts : spec.Accounts block.config t.world block.node block.expected.ignoring below
      (below.drop next)) (v : Value) :
    (b.leave (.ok v) t).1 = .ok v ↔ block.config.Passes t.world block.node ∧
      ∃ last, spec.Accounts block.config t.world block.node block.expected.ignoring below last ∧
        (block.expected.ignoring = true ∨ last = []) := by
  have hdrop : below.drop next = [] ↔ next = below.length := by
    rw [List.drop_eq_nil_iff]
    omega
  have hlast : (∃ last, spec.Accounts block.config t.world block.node block.expected.ignoring below
        last ∧ (block.expected.ignoring = true ∨ last = [])) ↔
      (block.expected.ignoring = true ∨ next = below.length) := by
    constructor
    · rintro ⟨last, hlast, hignoring | rfl⟩
      · exact .inl hignoring
      · exact .inr (hdrop.mp (haccounts.left_unique hlast))
    · exact fun h => ⟨below.drop next, haccounts, h.imp id hdrop.mpr⟩
  rw [hlast]
  exact leave_ok_iff hb hc hcursor v

/-- What a spec did in a block that had just been opened decides what comes of leaving the block. -/
theorem leave_ran {spec : Spec} {below : List Node} {e : Event} {outcome : Except Failure Value}
    (hb : s.block? b = some block)
    (hp : ∀ p, block.parentCursor = some p → ∃ cursor, s.cursor? p = some cursor ∧ cursor.IsUsable)
    (hchanges : ((s.record e).attach b block block.node below).Changes t)
    (hran : spec.Ran ((s.record e).attach b block block.node below) s.freshCursor
      (block.cursorFor block.node below) outcome t) (w : Way) :
    Decides (block.config.Passes s.world block.node ∧
        ∃ last, spec.Accounts block.config s.world block.node block.expected.ignoring below last ∧
          (block.expected.ignoring = true ∨ last = []))
      (w.answer block.node .nothing) s
      ((b.leave outcome t).1.map (w.answer block.node)) (b.leave outcome t).2 := by
  have hworld : ((s.record e).attach b block block.node below).world = s.world :=
    Session.world_attach ..
  have hblock := hchanges.grows.block_eq (block?_attached (n := block.node) hb below e) rfl
  -- A body that was not accounted for has failed, and the block then fails as well.
  cases hran with
  | @unmet f _ hunmet =>
      obtain ⟨later, hlater, -⟩ :=
        hchanges.grows.cursor (cursor?_attached_fresh (b := b) (n := block.node) below e hp)
      rw [leave_error hblock rfl hlater]
      refine .fails ?_
      rintro ⟨-, last, hlast, -⟩
      rw [hworld] at hunmet
      exact hunmet last hlast
  | @met _ next hle haccounts htworld htcursor hframe =>
      rw [← htworld] at haccounts
      have hleave := leave_accounted hblock rfl htcursor hle haccounts .nothing
      rw [htworld, hworld] at hleave
      have hkept : t.Changes (b.leave (.ok .nothing : Except Failure Value) t).2 :=
        (b.keeps_leave _).after t
      have hcursors := cursor?_leave hblock rfl (.ok .nothing : Except Failure Value)
      rcases hleft : b.leave (.ok .nothing : Except Failure Value) t with ⟨f | v, left⟩ <;>
        rw [hleft] at hleave hkept hcursors
      · exact .fails fun h => by simpa using hleave.mpr h
      · have hv : Value.nothing = v := Except.ok.inj (eq_of_leave_ok (by rw [hleft])).1
        subst hv
        refine .holds (hleave.mp rfl) (hkept.world.trans (htworld.trans hworld)) fun d old hd => ?_
        exact (hcursors d).trans (cursor?_released hp hframe hd)

end BlockId

/-! ## Visits -/

namespace Target

variable {spec : Spec} {target : Target} {r s : Session} {b : BlockId} {block : Block}

/-- Once a block has taken its node, what it makes of the node and its body decides whether the spec
admits the tree below the node. -/
theorem decides_of_begin (hspec : spec.Runs) (w : Way) (hb : s.block? b = some block)
    (hbegin : target.begin r = andThen (b.accept block.node s) fun c => pure (b, c))
    (hp : ∀ p, block.parentCursor = some p → ∃ cursor, s.cursor? p = some cursor ∧ cursor.IsUsable)
    (hparent : ∀ p, block.parentPath.getLast? = some p →
      ∃ nodes, (block.config.view s.world).ask p = .ok nodes) :
    Decides (spec.Admits block.config s.world block.parentPath.getLast? block.expected block.node)
      (w.answer block.node .nothing) s (target.visit w (fun d => spec.run d) r).1
      (target.visit w (fun d => spec.run d) r).2 := by
  rcases BlockId.accept_fits hb hparent block.node with ⟨f, t, hf, hnot⟩ | ⟨hfits, e, below, hask, hok⟩
  · rw [hf, andThen_error] at hbegin
    rw [visit_of_error hbegin]
    refine .fails ?_
    rintro ⟨hfits, below, hask, -⟩
    exact hnot ⟨hfits, below, hask⟩
  rw [hok, andThen_ok, pure_apply] at hbegin
  have hcursor := BlockId.cursor?_attached_fresh (b := b) (n := block.node) below e hp
  have hworld : ((s.record e).attach b block block.node below).world = s.world :=
    Session.world_attach ..
  have hkeeps := spec.keeps_run s.freshCursor
  have hgrows : Keeps Session.Grows (spec.run s.freshCursor) := ⟨fun s => (hkeeps.after s).grows⟩
  rw [visit_apply hgrows hbegin hcursor, Spec.admits_iff hfits hask]
  -- The spec starts at a cursor that has taken no child yet.
  have hran := hspec hcursor ⟨⟨rfl, rfl⟩, by rw [hworld]; exact hask, by simp [Block.cursorFor],
    Nat.zero_le _⟩
  exact BlockId.leave_ran hb hp (hkeeps.after _) hran w

end Target

/-! ## Running specs -/

namespace Spec

variable {spec rest inside : Spec} {s t u : Session} {c : CursorId} {cursor : Cursor}
  {outcome : Except Failure Value}

/-- Once the first of a spec is done with, the rest is left to do. -/
theorem Ran.after {next : Nat} (h : rest.Ran t c { cursor with next := next } outcome u)
    (hworld : t.world = s.world)
    (hframe : ∀ d old, d ≠ c → s.cursor? d = some old → t.cursor? d = some old)
    (haccounts : ∀ left, spec.Accounts cursor.config s.world cursor.node cursor.ignoring
        (cursor.children.drop cursor.next) left ↔
      rest.Accounts cursor.config s.world cursor.node cursor.ignoring
        (cursor.children.drop next) left) : spec.Ran s c cursor outcome u := by
  cases h with
  | met hle hrest huworld hcursor hframe' =>
      rw [hworld] at hrest huworld
      exact .met hle ((haccounts _).mpr hrest) huworld hcursor
        fun d old hd hold => hframe' d old hd (hframe d old hd hold)
  | unmet hrest =>
      rw [hworld] at hrest
      exact .unmet fun left h => hrest left ((haccounts left).mp h)

theorem runs_done : done.Runs := by
  intro c s cursor hc hsees
  exact .met hsees.next rfl rfl hc fun d old _ hold => hold

/-- An assertion, then the rest. -/
theorem runs_assert (h : rest.Runs) (check : World → Node → Except Failure Unit) :
    (assert check rest).Runs := by
  intro c s cursor hc hsees
  rw [run, bind_apply, world_apply, andThen_ok, bind_apply, cursor_apply hc, andThen_ok, bind_apply,
    resume_apply]
  cases hcheck : check s.world cursor.node with
  | error f =>
      refine .unmet fun left h => ?_
      have hpassed := h.1
      rw [hcheck] at hpassed
      cases hpassed
  | ok _ =>
      refine (h hc hsees).after rfl (fun d old _ hold => hold) fun left => ?_
      exact and_iff_right hcheck

/-- Skipping children, then the rest. -/
theorem runs_skip (h : rest.Runs) (count : Nat) : (skip count rest).Runs := by
  intro c s cursor hc hsees
  rw [run, bind_apply]
  rcases hskip : c.skip count s with ⟨outcome, t⟩
  have hleft : (cursor.children.drop cursor.next).length = cursor.children.length - cursor.next :=
    List.length_drop
  have hnext := hsees.next
  cases CursorId.skipping_of_eq hc hsees.usable hskip with
  | ignored hi hf =>
      rw [andThen_error]
      refine .unmet fun left h => ?_
      rw [hi] at h
      cases h.1
  | tooFar hi hlen hf =>
      rw [andThen_error]
      refine .unmet fun left h => ?_
      have hcount := h.2.1
      omega
  | advanced hi hle hcursor hframe =>
      have hcount : count ≤ (cursor.children.drop cursor.next).length := by omega
      rw [andThen_ok]
      refine (h hcursor ⟨hsees.usable, hsees.asked, hsees.path, hle⟩).after rfl hframe fun left => ?_
      simp only [Accounts, hi, hcount, true_and, List.drop_drop]

/-- Matching a child that there is decides whether it is admitted. -/
theorem visit_child_decides {n : Node} (hinside : inside.Runs) (way : Way) (e : Expected)
    (hc : s.cursor? c = some cursor) (hsees : cursor.Sees s.world) (hi : cursor.ignoring = false)
    (hn : cursor.children[cursor.next]? = some n) :
    Decides (inside.Admits cursor.config s.world (some cursor.node) e n) (way.answer n .nothing)
      ((s.addBlock (c.blockFor cursor e)).take s.freshBlock c n)
      ((Target.child c e).visit way (fun d => inside.run d) s).1
      ((Target.child c e).visit way (fun d => inside.run d) s).2 := by
  have hblock : (Target.child c e).block s = (.ok s.freshBlock, s.addBlock (c.blockFor cursor e)) := by
    rw [Target.block, CursorId.childBlock_apply hc hsees.usable, hi]
    rfl
  have hb := s.block?_freshBlock (c.blockFor cursor e)
  have ht : BlockId.Takes (s.addBlock (c.blockFor cursor e)) s.freshBlock (c.blockFor cursor e) n
      ((s.addBlock (c.blockFor cursor e)).take s.freshBlock c n) := .child rfl hc hsees.usable hn
  obtain ⟨htaken, -, -⟩ := BlockId.takes_block hb ht
  obtain ⟨-, husable⟩ := BlockId.takes_change (R := Session.Changes) hb rfl ht
  have hbegin : (Target.child c e).begin s = andThen (s.freshBlock.accept n
      ((s.addBlock (c.blockFor cursor e)).take s.freshBlock c n)) fun d => pure (s.freshBlock, d) := by
    rw [Target.begin, bind_apply, hblock, andThen_ok, bind_apply, BlockId.open_apply hb rfl,
      BlockId.takeNode_of_takes hb ht, andThen_ok]
  have hdecides := Target.decides_of_begin hinside way htaken hbegin husable (by
    intro p hp
    rw [show (c.blockFor cursor e).parentPath = cursor.path from rfl, hsees.path] at hp
    cases hp
    exact ⟨_, hsees.asked⟩)
  rw [show (c.blockFor cursor e).parentPath = cursor.path from rfl, hsees.path] at hdecides
  exact hdecides

/-- Where children do not matter none can be matched, and neither can a child that there is not. -/
theorem visit_child_of_missing (inside : Spec) (way : Way) (e : Expected)
    (hc : s.cursor? c = some cursor)
    (hn : cursor.ignoring = false → cursor.children[cursor.next]? = none) :
    ∃ f t, (Target.child c e).visit way (fun d => inside.run d) s = (.error f, t) := by
  have hbegin : (Target.child c e).begin = (do
      let b ← c.childBlock e
      return (b, ← b.open)) := rfl
  rcases c.childBlock_cases e s with ⟨f, hf⟩ | ⟨parent, hparent, -, hi, hok⟩
  · refine ⟨f, s, Target.visit_of_error ?_ way _⟩
    rw [hbegin, bind_apply, hf, andThen_error]
  · rw [hc] at hparent
    cases hparent
    have hb := s.block?_freshBlock (c.blockFor cursor e)
    obtain ⟨f, hf⟩ := BlockId.open_of_untakable hb rfl rfl hc fun h =>
      absurd h.2 (Nat.not_lt.mpr (List.getElem?_eq_none_iff.mp (hn hi)))
    refine ⟨f, s.addBlock (c.blockFor cursor e), Target.visit_of_error ?_ way _⟩
    rw [hbegin, bind_apply, hok, andThen_ok, bind_apply, hf, andThen_error]

/-- Matching a child, then the rest. -/
theorem runs_child (hinside : inside.Runs) (h : rest.Runs) (way : Way) (e : Expected) :
    (child way e inside rest).Runs := by
  intro c s cursor hc hsees
  rw [run, discard_bind, bind_apply]
  -- Without a child to visit nothing is admitted, and the visit fails before its body.
  by_cases hchild : cursor.ignoring = false ∧ ∃ n, cursor.children[cursor.next]? = some n
  · obtain ⟨hi, n, hn⟩ := hchild
    have hdecides := visit_child_decides hinside way e hc hsees hi hn
    have haccounts : ∀ left, (child way e inside rest).Accounts cursor.config s.world cursor.node
          cursor.ignoring (cursor.children.drop cursor.next) left ↔
        inside.Admits cursor.config s.world (some cursor.node) e n ∧
          rest.Accounts cursor.config s.world cursor.node cursor.ignoring
            (cursor.children.drop (cursor.next + 1)) left := by
      intro left
      rw [Items.Followed.drop_eq_cons hn, accounts_child_cons]
      exact and_iff_right hi
    obtain ⟨visited, t, hvisit⟩ : ∃ visited t,
        (Target.child c e).visit way (fun d => inside.run d) s = (visited, t) := ⟨_, _, rfl⟩
    rw [hvisit] at hdecides ⊢
    cases hdecides with
    | fails hnot => exact .unmet fun left h => hnot ((haccounts left).mp h).1
    | holds hadmits hworld hframe =>
        have hworld' : t.world = s.world := hworld
        obtain ⟨hcursor, hothers⟩ := Session.cursors_of_taken hc hframe
        have hle : cursor.next + 1 ≤ cursor.children.length := (List.getElem?_eq_some_iff.mp hn).1
        rw [andThen_ok]
        exact (h hcursor ⟨hsees.usable, by rw [hworld']; exact hsees.asked, hsees.path, hle⟩).after
          hworld' hothers fun left => (haccounts left).trans (and_iff_right hadmits)
  · obtain ⟨f, t, hf⟩ := visit_child_of_missing inside way e hc fun hi =>
      Option.eq_none_iff_forall_not_mem.mpr fun n hn => hchild ⟨hi, n, hn⟩
    rw [hf, andThen_error]
    refine .unmet fun left haccounts => hchild ?_
    cases hnodes : cursor.children.drop cursor.next with
    | nil =>
        rw [hnodes] at haccounts
        exact haccounts.elim
    | cons n nodes =>
        rw [hnodes, accounts_child_cons] at haccounts
        refine ⟨haccounts.1, n, ?_⟩
        rw [← Nat.add_zero cursor.next, ← List.getElem?_drop, hnodes]
        rfl

/-- Whatever a spec says is what running it does. -/
theorem runs (spec : Spec) : spec.Runs := by
  induction spec with
  | done => exact runs_done
  | assert check rest ih => exact runs_assert ih check
  | skip count rest ih => exact runs_skip ih count
  | child way e inside rest ihinside ih => exact runs_child ihinside ih way e

end Spec

namespace TreeSpec

/-- Matching a tree as a spec says succeeds just if there is a tree and the spec admits it, and then
returns the root, or the value of the script. -/
theorem run_eq_ok_iff {p : TreeSpec} {c : Config} {root : Node} {s : Session} {v : Value} :
    (p.run c root s).1 = .ok v ↔ root ≠ .absent ∧
      p.spec.Admits c s.world none p.expected root ∧ v = p.way.answer root .nothing := by
  by_cases hroot : root = .absent
  · have hbegin : (Target.root c p.expected root).begin s =
        (.error (.absentRoot ((c.view s.world).typeName p.expected.type)), s) := by
      subst hroot
      rfl
    rw [run, Target.visit_of_error hbegin]
    exact iff_of_false (by simp) fun h => h.1 hroot
  · have hb := s.block?_freshBlock (c.rootBlock p.expected [] root)
    have ht : BlockId.Takes (s.addBlock (c.rootBlock p.expected [] root)) s.freshBlock
        (c.rootBlock p.expected [] root) root (s.addBlock (c.rootBlock p.expected [] root)) :=
      .root rfl
    have hbegin : (Target.root c p.expected root).begin s = andThen (s.freshBlock.accept root
        (s.addBlock (c.rootBlock p.expected [] root))) fun d => pure (s.freshBlock, d) := by
      show (do let b ← c.matching p.expected root; return (b, ← b.open) : Run _) s = _
      rw [bind_apply, Config.matching_apply hroot, andThen_ok, bind_apply,
        BlockId.open_apply hb rfl, BlockId.takeNode_of_takes hb ht, andThen_ok]
    have hdecides := Target.decides_of_begin p.spec.runs p.way hb hbegin (by rintro _ ⟨⟩)
      (by rintro _ ⟨⟩)
    rw [and_iff_right hroot]
    exact hdecides.ok_iff

end TreeSpec

end TreeShape
