import TreeShape.Proofs.Reports.Findings
import TreeShape.Proofs.Shape.Refinement
import TreeShape.Proofs.Shape.Scripts

/-!
# The first violation

Matching a tree with a pattern stops at the first thing that is wrong.  `Items.First` and
`Pattern.First` say what that is and whose path is blamed, by recursion on the pattern and without
cursors: the items are gone through from left to right, and whatever comes before the violation, at
every level, has been satisfied.

Implicit checks may be made.  Their failures, and those of adapters and printers, are kept apart,
`Config.Brings`.

## Strategy

What comes of items at a cursor is `Items.Met`, and what comes of a pattern at a node `Pattern.Met`: all
was satisfied, or the first thing wrong was reported, or a failure was brought in.  The two are shown
together, by induction on the items, `Items.meets`.

* **Through a block.**  `BlockId.accept_met` goes through all that can come of looking at the node; what
  is wrong with the node itself is blamed on the path above.  If the node is attached, the body is known
  by the induction, and leaving the block adds what comes last: the implicit check and the count of the
  children (`met_of_cut`), or a location for what was brought in (`met_of_brought`).
* **Children that are left.**  The count is not compared where items fail to find a child, but only when
  all items are through.  `Items.first_of_cuts` says that it then is the first thing wrong.
* **Through the items.**  A child that is not satisfied ends it; otherwise the cursor has moved on by
  one and nothing else has changed, so that what comes of the other items counts (`Items.Met.of_rest`).

The other ways to match a tree make the same calls in the same order, so they fail alike,
`Pattern.error_of_script`.
-/

namespace TreeShape

open Run

/-- Something that is wrong with a tree, or with a pattern. -/
inductive Wrong where
  | mismatch (reason : Mismatch)
  | misuse (reason : Misuse)

/-- The failure that reports it at a place. -/
def Wrong.failure (place : Location) : Wrong → Failure
  | mismatch reason => .mismatch place reason
  | misuse reason => .misuse place reason

mutual

/-- From left to right, the first thing that is wrong with the children of a node from a position on,
and the path that is blamed.  The node stands at the end of the path that is given first, and its
children may not matter. -/
inductive Items.First (v : View) :
    Items → Bool → List Node → List Node → Nat → List Node → Wrong → Prop
  | leftOver {path children : List Node} {next : Nat} : next < children.length →
      Items.First v .done false path children next path
        (.mismatch (.childCount next children.length))
  | ignored {items : Items} {path children : List Node} {next : Nat} : items ≠ .done →
      Items.First v items true path children next path (.misuse .childrenIgnored)
  | farSkip {count : Nat} {rest : Items} {path children : List Node} {next : Nat} :
      children.length < next + count →
      Items.First v (.skip count rest) false path children next path
        (.mismatch (.missingChild (next + count - 1)))
  | afterSkip {count : Nat} {rest : Items} {path children blamed : List Node} {next : Nat}
      {wrong : Wrong} : next + count ≤ children.length →
      Items.First v rest false path children (next + count) blamed wrong →
      Items.First v (.skip count rest) false path children next blamed wrong
  | noChild {e : Expected} {inside rest : Items} {path children : List Node} {next : Nat} :
      children.length ≤ next →
      Items.First v (.child e inside rest) false path children next path
        (.mismatch (.missingChild next))
  | atChild {e : Expected} {inside rest : Items} {path children blamed : List Node} {next i : Nat}
      {n : Node} {wrong : Wrong} : children[next]? = some n → View.position? children n = some i →
      Pattern.First v ⟨e, inside⟩ path (.child (some i)) n blamed wrong →
      Items.First v (.child e inside rest) false path children next blamed wrong
  | afterChild {e : Expected} {inside rest : Items} {path children blamed : List Node} {next : Nat}
      {n : Node} {wrong : Wrong} : children[next]? = some n →
      Pattern.Conforms ⟨e, inside⟩ v path.getLast? n →
      Items.First v rest false path children (next + 1) blamed wrong →
      Items.First v (.child e inside rest) false path children next blamed wrong

/-- The first thing that is wrong with a node below a path, and the path that is blamed. -/
inductive Pattern.First (v : View) : Pattern → List Node → Label → Node → List Node → Wrong → Prop
  | wrongType {p : Pattern} {above : List Node} {label : Label} {n : Node} :
      v.isInstance n p.expected.type = false →
      Pattern.First v p above label n above (.mismatch (v.wrongType label p.expected.type n))
  | wrongParent {p : Pattern} {above : List Node} {label : Label} {n parent : Node} :
      v.isInstance n p.expected.type = true → above.getLast? = some parent →
      v.isLinkedTo (some parent) n = false →
      Pattern.First v p above label n above (.mismatch (v.wrongParent label parent n))
  | inside {p : Pattern} {above below blamed : List Node} {label : Label} {n : Node}
      {wrong : Wrong} : v.Fits above.getLast? p.expected n → v.ask n = .ok below →
      Items.First v p.items p.expected.ignoring (above ++ [n]) below 0 blamed wrong →
      Pattern.First v p above label n blamed wrong

end

/-- Failures that adapters, printers and implicit checks bring in, with or without the location that a
block has given them. -/
inductive Config.Brings (c : Config) (w : World) : Failure → Prop
  | asked {f : Failure} : c.Fails w f → Brings c w f
  | checked {check : ImplicitCheck} {n : Node} {f : Failure} : c.implicit = some check →
      check.run w n = .error f → Brings c w f
  | located {f : Failure} (place : Location) : Brings c w f → Brings c w (f.located place)

/-! ## What comes of items -/

/-- What is known of the cursor of a node that has been asked for its children. -/
structure Cursor.Stands (cursor : Cursor) (w : World) : Prop where
  asked : (cursor.config.view w).ask cursor.node = .ok cursor.children
  path : cursor.path.getLast? = some cursor.node
  next : cursor.next ≤ cursor.children.length

/-- What comes of going through the items at a cursor: they cut off the next children, or something is
the first thing wrong, or a failure is brought in. -/
inductive Items.Met {α : Type} (items : Items) (s : Session) (c : CursorId) (cursor : Cursor) :
    Except Failure α → Session → Prop
  | cut {a : α} {t : Session} {next : Nat} : next ≤ cursor.children.length →
      items.CutsUnless cursor.ignoring (cursor.config.view s.world) cursor.node
        (cursor.children.drop cursor.next) (cursor.children.drop next) →
      t.cursor? c = some { cursor with next := next } →
      (∀ d old, d ≠ c → s.cursor? d = some old → t.cursor? d = some old) →
      Met items s c cursor (.ok a) t
  | wrong {t : Session} {blamed : List Node} {wrong : Wrong} {place : Location} :
      items.First (cursor.config.view s.world) cursor.ignoring cursor.path cursor.children
        cursor.next blamed wrong →
      Location.of cursor.config s.world blamed = .ok place →
      Met items s c cursor (.error (wrong.failure place)) t
  | brought {f : Failure} {t : Session} : cursor.config.Brings s.world f →
      Met items s c cursor (.error f) t

/-- What comes of matching a node with a pattern. -/
inductive Pattern.Met {α : Type} (p : Pattern) (c : Config) (above : List Node) (label : Label)
    (n : Node) (s : Session) : Except Failure α → Session → Prop
  | conforms {a : α} {t : Session} : p.Conforms (c.view s.world) above.getLast? n →
      (∀ d old, s.cursor? d = some old → t.cursor? d = some old) →
      Met p c above label n s (.ok a) t
  | wrong {t : Session} {blamed : List Node} {wrong : Wrong} {place : Location} :
      p.First (c.view s.world) above label n blamed wrong →
      Location.of c s.world blamed = .ok place →
      Met p c above label n s (.error (wrong.failure place)) t
  | brought {f : Failure} {t : Session} : c.Brings s.world f → Met p c above label n s (.error f) t

/-- The body goes through the items, wherever it is called. -/
def Meets {α : Type} (body : CursorId → Run α) (items : Items) : Prop :=
  ∀ {s : Session} {c : CursorId} {cursor : Cursor}, s.cursor? c = some cursor → cursor.IsUsable →
    cursor.Stands s.world → items.Met s c cursor (body c s).1 (body c s).2

/-! ## Leaving and opening blocks -/

section

variable {α : Type} {c : Config} {w : World} {path : List Node} {f : Failure}

/-- What is first is reported at the path that is to blame, unless the dump there fails. -/
theorem Pattern.Met.of_mismatch {β : Type} {p : Pattern} {above : List Node} {label : Label}
    {n : Node} {s t : Session} {reason : Mismatch}
    (hf : (c.mismatch s.world path reason : Except Failure β) = .error f)
    (hfirst : p.First (c.view s.world) above label n path (.mismatch reason)) :
    p.Met c above label n s (.error f : Except Failure α) t := by
  rcases Config.mismatch_cases hf with ⟨place, hplace, rfl⟩ | hfails
  · have hmet := Pattern.Met.wrong (α := α) (t := t) hfirst hplace
    exact hmet
  · exact .brought (.asked hfails)

theorem Items.Met.of_mismatch {β : Type} {items : Items} {s t : Session} {id : CursorId}
    {cursor : Cursor} {reason : Mismatch}
    (hf : (cursor.config.mismatch s.world path reason : Except Failure β) = .error f)
    (hfirst : items.First (cursor.config.view s.world) cursor.ignoring cursor.path cursor.children
      cursor.next path (.mismatch reason)) :
    items.Met s id cursor (.error f : Except Failure α) t := by
  rcases Config.mismatch_cases hf with ⟨place, hplace, rfl⟩ | hfails
  · have hmet := Items.Met.wrong (α := α) (t := t) (c := id) hfirst hplace
    exact hmet
  · exact .brought (.asked hfails)

/-- A cursor whose children do not matter stops at the first item. -/
theorem Items.Met.of_ignoring {β : Type} {items : Items} {s t : Session} {id : CursorId}
    {cursor : Cursor} (hi : cursor.ignoring = true) (hitems : items ≠ .done)
    (hf : (cursor.config.misuse s.world cursor.path .childrenIgnored : Except Failure β) =
      .error f) : items.Met s id cursor (.error f : Except Failure α) t := by
  rcases Config.misuse_cases hf with ⟨place, hplace, rfl⟩ | hfails
  · have hfirst : items.First (cursor.config.view s.world) cursor.ignoring cursor.path
        cursor.children cursor.next cursor.path (.misuse .childrenIgnored) := by
      rw [hi]
      exact .ignored hitems
    have hmet := Items.Met.wrong (α := α) (t := t) (c := id) hfirst hplace
    exact hmet
  · exact .brought (.asked hfails)

/-- What is brought in leaves a block as something that is brought in. -/
theorem Config.Brings.settle {cursor : Cursor} (h : cursor.config.Brings w f) :
    cursor.config.Brings w (cursor.settle w f) := by
  unfold Cursor.settle Config.locate
  split
  · rcases cursor.config.location_cases w cursor.path with ⟨place, hplace⟩ | ⟨g, hg, hfails⟩
    · rw [hplace]
      exact .located place h
    · rw [hg]
      exact .asked hfails
  · exact h

theorem Wrong.wantsLocation_failure (wrong : Wrong) (place : Location) :
    (wrong.failure place).wantsLocation = false := by
  cases wrong <;> rfl

end

/-- Items that cut off the next children, but not all of them, leave some over. -/
theorem Items.first_of_cuts {v : View} {parent : Node} {items : Items} {path children : List Node}
    {next last : Nat} (h : items.Cuts v parent (children.drop next) (children.drop last))
    (hpath : path.getLast? = some parent) (hnext : next ≤ children.length)
    (hlast : last < children.length) :
    items.First v false path children next path (.mismatch (.childCount last children.length)) := by
  -- Nothing on the way is wrong, so the first violation is at the end.
  induction items generalizing next with
  | done =>
      have hlength : (children.drop next).length = (children.drop last).length := by
        rw [show children.drop next = children.drop last from h]
      rw [List.length_drop, List.length_drop] at hlength
      obtain rfl : next = last := by omega
      exact .leftOver hlast
  | skip count rest ih =>
      obtain ⟨hcount, hrest⟩ := h
      rw [List.length_drop] at hcount
      rw [List.drop_drop] at hrest
      exact .afterSkip (by omega) (ih hrest (by omega))
  | child e inside rest _ ih =>
      by_cases hlt : next < children.length
      · rw [List.drop_eq_getElem_cons hlt, cuts_child_cons] at h
        refine .afterChild (List.getElem?_eq_getElem hlt) ?_ (ih h.2 hlt)
        rw [hpath]
        exact h.1
      · rw [List.drop_eq_nil_of_le (Nat.not_lt.mp hlt)] at h
        exact h.elim

namespace BlockId

variable {α : Type} {s : Session} {b : BlockId} {block : Block} {n : Node} {label : Label}

/-- When a body has come to its end, the implicit check is made and the children that are left are
counted. -/
theorem leave_counts {t : Session} {c : CursorId} {children : List Node} {next : Nat}
    (hb : t.block? b = some block) (hc : block.cursor = some c)
    (hcursor : t.cursor? c = some { block.cursorFor n children with next := next }) (a : α) :
    (b.leave (.ok a) t).1 = (if block.expected.ignoring || next == children.length then .ok a
        else block.config.mismatch t.world (block.parentPath ++ [n])
          (.childCount next children.length)) ∨
      ∃ f, (b.leave (.ok a) t).1 = .error f ∧ block.config.Brings t.world f := by
  cases hi : block.config.implicit with
  | none => exact .inl (congrArg Prod.fst (leave_ok hb hc hi hcursor a))
  | some check =>
      cases hcheck : check.run t.world block.node with
      | ok _ => exact .inl (leave_of_passed hb hc hcursor hi hcheck a)
      | error f =>
          have hbrings : ({ block.cursorFor n children with next := next } : Cursor).config.Brings
              t.world f := .checked hi hcheck
          exact .inr ⟨_, leave_of_implicit hb hc hcursor hi hcheck a, hbrings.settle⟩

section

variable {items : Items} {t : Session} {children : List Node} {e : Event}

/-- After items that have cut off the first children, the children that are left are the next thing that
may be wrong. -/
theorem met_of_cut {next : Nat}
    (hp : ∀ p, block.parentCursor = some p → ∃ cursor, s.cursor? p = some cursor ∧ cursor.IsUsable)
    (hfits : (block.config.view s.world).Fits block.parentPath.getLast? block.expected n)
    (hask : (block.config.view s.world).ask n = .ok children)
    (hb : t.block? b = some { block with cursor := some s.freshCursor }) (hworld : t.world = s.world)
    (hcursor : t.cursor? s.freshCursor = some { block.cursorFor n children with next := next })
    (hframe : ∀ d old, d ≠ s.freshCursor →
      ((s.record e).attach b block n children).cursor? d = some old → t.cursor? d = some old)
    (hle : next ≤ children.length)
    (hcuts : items.CutsUnless block.expected.ignoring (block.config.view s.world) n children
      (children.drop next)) (a : α) :
    Pattern.Met ⟨block.expected, items⟩ block.config block.parentPath label n s
      (b.leave (.ok a) t).1 (b.leave (.ok a) t).2 := by
  have hcursors := cursor?_leave hb rfl (.ok a : Except Failure α)
  have hcounts := leave_counts hb rfl hcursor a
  rcases hleave : b.leave (.ok a : Except Failure α) t with ⟨left, u⟩
  rw [hleave] at hcursors hcounts
  rw [hworld] at hcounts
  rcases hcounts with hcount | ⟨f, rfl, hbrings⟩
  · -- The cursors made inside are still there, and the parent's cursor is released.
    by_cases hcounted : (block.expected.ignoring || next == children.length) = true
    · rw [if_pos hcounted] at hcount
      obtain rfl : left = .ok a := hcount
      refine .conforms ⟨hfits, children, hask, cutsUnless_nil hcuts hcounted⟩ fun d old hd => ?_
      exact (hcursors d).trans (cursor?_released hp hframe hd)
    · obtain ⟨hignoring, hnext⟩ : block.expected.ignoring = false ∧ next ≠ children.length := by
        simpa using hcounted
      obtain ⟨f, hf⟩ := Config.exists_mismatch_eq (α := α) block.config s.world
        (block.parentPath ++ [n]) (.childCount next children.length)
      rw [if_neg hcounted] at hcount
      obtain rfl : left = .error f := hcount.trans hf
      refine .of_mismatch hf (.inside hfits hask ?_)
      rw [hignoring] at hcuts ⊢
      exact Items.first_of_cuts hcuts List.getLast?_concat (Nat.zero_le _) (by omega)
  · exact .brought hbrings

/-- What the body brought in is located by the block, and still brought in. -/
theorem met_of_brought {later : Cursor} {f : Failure}
    (hb : t.block? b = some { block with cursor := some s.freshCursor }) (hworld : t.world = s.world)
    (hlater : t.cursor? s.freshCursor = some later)
    (hgrows : (block.cursorFor n children).Grows later) (hbrings : block.config.Brings s.world f) :
    Pattern.Met ⟨block.expected, items⟩ block.config block.parentPath label n s
      (b.leave (.error f : Except Failure α) t).1 (b.leave (.error f : Except Failure α) t).2 := by
  have hconfig : later.config = block.config := hgrows.config
  have hsettled : block.config.Brings s.world (later.settle t.world f) := by
    rw [← hconfig, hworld]
    exact Config.Brings.settle (hconfig ▸ hbrings)
  rw [leave_error hb rfl hlater]
  exact .brought hsettled

/-- What comes of the body of a block that has just been opened. -/
theorem attached_met {body : CursorId → Run α} (hbody : Meets body items)
    (hkeeps : ∀ d, Keeps Session.Changes (body d)) (hb : s.block? b = some block)
    (hp : ∀ p, block.parentCursor = some p → ∃ cursor, s.cursor? p = some cursor ∧ cursor.IsUsable)
    (hfits : (block.config.view s.world).Fits block.parentPath.getLast? block.expected n)
    (hask : (block.config.view s.world).ask n = .ok children) :
    Pattern.Met ⟨block.expected, items⟩ block.config block.parentPath label n s
      ((do b.leave (← attempt (body s.freshCursor))) ((s.record e).attach b block n children)).1
      ((do b.leave (← attempt (body s.freshCursor))) ((s.record e).attach b block n children)).2 := by
  rw [bind_apply, attempt_apply, andThen_ok]
  have hcursor := cursor?_attached_fresh (b := b) (n := n) children e hp
  have hworld : ((s.record e).attach b block n children).world = s.world :=
    Session.world_attach ..
  have hstands : (block.cursorFor n children).Stands
      ((s.record e).attach b block n children).world := by
    rw [hworld]
    exact ⟨hask, List.getLast?_concat, Nat.zero_le _⟩
  have hmet := hbody hcursor ⟨rfl, rfl⟩ hstands
  have hchanges := (hkeeps s.freshCursor).after ((s.record e).attach b block n children)
  obtain ⟨outcome, t, hrun⟩ : ∃ outcome t,
      body s.freshCursor ((s.record e).attach b block n children) = (outcome, t) := ⟨_, _, rfl⟩
  rw [hrun] at hmet hchanges ⊢
  -- The body leaves the block open at its own cursor.
  have hblock := hchanges.grows.block_eq (block?_attached hb children e) rfl
  have hworld' : t.world = s.world := hchanges.world.trans hworld
  dsimp only at hmet ⊢
  cases hmet with
  | cut hle hcuts hcur hframe =>
      rw [hworld] at hcuts
      exact met_of_cut hp hfits hask hblock hworld' hcur hframe hle hcuts _
  | @wrong _ blamed wrong place hfirst hplace =>
      rw [hworld] at hfirst hplace
      rw [leave_of_other hblock rfl (wrong.wantsLocation_failure place)]
      exact .wrong (.inside hfits hask hfirst) hplace
  | brought hbrings =>
      rw [hworld] at hbrings
      obtain ⟨later, hlater, hgrows⟩ := hchanges.grows.cursor hcursor
      exact met_of_brought hblock hworld' hlater hgrows hbrings

end

/-- What comes of a block that has taken its node. -/
theorem accept_met {body : CursorId → Run α} {items : Items} (hbody : Meets body items)
    (hkeeps : ∀ d, Keeps Session.Changes (body d)) (hb : s.block? b = some block)
    (hp : ∀ p, block.parentCursor = some p → ∃ cursor, s.cursor? p = some cursor ∧ cursor.IsUsable)
    (hl : labelFor (block.config.view s.world) block.parentPath n = .ok label) :
    Pattern.Met ⟨block.expected, items⟩ block.config block.parentPath label n s
      (andThen (b.accept n s) fun c => do b.leave (← attempt (body c))).1
      (andThen (b.accept n s) fun c => do b.leave (← attempt (body c))).2 := by
  rcases haccept : b.accept n s with ⟨outcome, t⟩
  -- The checks of a block are made in the order in which the spec lists what may be wrong.
  cases accepting_of_eq hb haccept with
  | unlabelled hl' =>
      rw [hl] at hl'
      cases hl'
  | untyped htype => exact .brought (.asked (.type (View.typeRefusal_of_askType htype)))
  | wrongType hl' htype hf =>
      rw [hl] at hl'
      cases hl'
      exact .of_mismatch hf (.wrongType (View.isInstance_of_askType htype))
  | wrongParent hl' htype hlast hlink hf =>
      rw [hl] at hl'
      cases hl'
      exact .of_mismatch hf (.wrongParent (View.isInstance_of_askType htype) hlast hlink)
  | childless _ _ _ hask => exact .brought (.asked (.children (View.refusal_of_ask hask)))
  | attached htype hlink _ hask => exact attached_met hbody hkeeps hb hp ⟨htype, hlink⟩ hask

/-- What comes of matching a node in a block that has not been opened yet. -/
theorem within_met {body : CursorId → Run α} {items : Items} {taken : Session}
    (hbody : Meets body items) (hkeeps : ∀ d, Keeps Session.Changes (body d))
    (hb : s.block? b = some block) (hc : block.cursor = none) (ht : Takes s b block n taken)
    (hl : labelFor (block.config.view s.world) block.parentPath n = .ok label) :
    Pattern.Met ⟨block.expected, items⟩ block.config block.parentPath label n taken
      (b.within body s).1 (b.within body s).2 := by
  obtain ⟨htaken, hworld, -⟩ := takes_block hb ht
  obtain ⟨-, hparent⟩ := takes_change (R := Session.Changes) hb hc ht
  rw [← hworld] at hl
  rw [within_eq, bind_apply, open_apply hb hc, takeNode_of_takes hb ht, andThen_ok]
  have hmet := accept_met hbody hkeeps htaken hparent hl
  exact hmet

end BlockId

/-! ## Items -/

section

variable {α : Type} {items rest inside : Items} {e : Expected} {s t u : Session} {c : CursorId}
  {cursor : Cursor}

/-- Once the first items are satisfied, what comes of the others counts. -/
theorem Items.Met.of_rest {next : Nat} {outcome : Except Failure α}
    (h : rest.Met t c { cursor with next := next } outcome u) (hi : cursor.ignoring = false)
    (hworld : t.world = s.world)
    (hframe : ∀ d old, d ≠ c → s.cursor? d = some old → t.cursor? d = some old)
    (hcuts : ∀ nodes, rest.Cuts (cursor.config.view s.world) cursor.node
        (cursor.children.drop next) nodes →
      items.Cuts (cursor.config.view s.world) cursor.node (cursor.children.drop cursor.next) nodes)
    (hfirst : ∀ blamed wrong, rest.First (cursor.config.view s.world) false cursor.path
        cursor.children next blamed wrong →
      items.First (cursor.config.view s.world) false cursor.path cursor.children cursor.next blamed
        wrong) : items.Met s c cursor outcome u := by
  -- What the others come to is seen in the session before the first items, too.
  cases h with
  | cut hle hcut hcursor hframe' =>
      rw [hworld] at hcut
      dsimp only at hle hcut hcursor
      rw [hi] at hcut
      refine .cut hle ?_ hcursor fun d old hd hold => hframe' d old hd (hframe d old hd hold)
      rw [hi]
      exact hcuts _ hcut
  | wrong hwrong hplace =>
      rw [hworld] at hwrong hplace
      dsimp only at hwrong hplace
      rw [hi] at hwrong
      refine .wrong ?_ hplace
      rw [hi]
      exact hfirst _ _ hwrong
  | brought hbrings =>
      rw [hworld] at hbrings
      exact .brought hbrings

theorem Meets.skip (h : ∀ {s : Session} {cursor : Cursor}, s.cursor? c = some cursor →
      cursor.IsUsable → cursor.Stands s.world → rest.Met s c cursor (rest.run c s).1 (rest.run c s).2)
    (count : Nat) (hc : s.cursor? c = some cursor) (hu : cursor.IsUsable)
    (hw : cursor.Stands s.world) :
    (Items.skip count rest).Met s c cursor ((Items.skip count rest).run c s).1
      ((Items.skip count rest).run c s).2 := by
  rw [Items.run, bind_apply]
  rcases hskip : c.skip count s with ⟨outcome, t⟩
  cases CursorId.skipping_of_eq hc hu hskip with
  | ignored hi hf =>
      rw [andThen_error]
      exact .of_ignoring hi (by simp) hf
  | tooFar hi hlen hf =>
      rw [andThen_error]
      refine .of_mismatch hf ?_
      rw [hi]
      exact .farSkip hlen
  | advanced hi hle hcursor hframe =>
      rw [andThen_ok]
      have hrest := h hcursor hu ⟨hw.asked, hw.path, hle⟩
      refine .of_rest hrest hi rfl hframe ?_ fun _ _ => .afterSkip hle
      intro nodes hcuts
      refine ⟨?_, ?_⟩
      · rw [List.length_drop]
        omega
      · rw [List.drop_drop]
        exact hcuts

/-- Telling the node afterwards, as matches do that return it. -/
theorem Meets.tellNode {body : CursorId → Run α} (h : Meets body items) :
    Meets (fun c => do discard (body c); return (← Run.cursor c).node) items := by
  intro s c cursor hc hu hw
  have hmet := h hc hu hw
  dsimp only
  rw [discard_bind, bind_apply]
  rcases hrun : body c s with ⟨outcome, t⟩
  rw [hrun] at hmet
  cases hmet with
  | cut hle hcuts hcursor hframe =>
      rw [andThen_ok, bind_apply, cursor_apply hcursor, andThen_ok]
      exact .cut hle hcuts hcursor hframe
  | wrong hfirst hplace => exact .wrong hfirst hplace
  | brought hbrings => exact .brought hbrings

/-- What comes of the block for the next child. -/
theorem CursorId.child_met {body : CursorId → Run α} {n : Node} {i : Nat} (hbody : Meets body inside)
    (hkeeps : ∀ d, Keeps Session.Changes (body d)) (hc : s.cursor? c = some cursor)
    (hu : cursor.IsUsable) (hw : cursor.Stands s.world) (hn : cursor.children[cursor.next]? = some n)
    (hposition : View.position? cursor.children n = some i) :
    Pattern.Met ⟨e, inside⟩ cursor.config cursor.path (.child (some i)) n
      ((s.addBlock (c.blockFor cursor e)).take s.freshBlock c n)
      (s.freshBlock.within body (s.addBlock (c.blockFor cursor e))).1
      (s.freshBlock.within body (s.addBlock (c.blockFor cursor e))).2 := by
  have hb := s.block?_freshBlock (c.blockFor cursor e)
  have hl : labelFor ((c.blockFor cursor e).config.view (s.addBlock (c.blockFor cursor e)).world)
      (c.blockFor cursor e).parentPath n = .ok (.child (some i)) := by
    unfold labelFor
    rw [show (c.blockFor cursor e).parentPath = cursor.path from rfl, hw.path]
    dsimp only
    rw [show ((c.blockFor cursor e).config.view (s.addBlock (c.blockFor cursor e)).world).ask
      cursor.node = .ok cursor.children from hw.asked, ← hposition]
    rfl
  exact BlockId.within_met hbody hkeeps hb rfl (.child rfl hc hu hn) hl

/-- A block for a child that there is not reports that there is none. -/
theorem CursorId.within_met_of_missing {body : CursorId → Run α} (e : Expected) (inside rest : Items)
    (hc : s.cursor? c = some cursor) (hu : cursor.IsUsable) (hi : cursor.ignoring = false)
    (hn : cursor.children[cursor.next]? = none) :
    ∃ f, s.freshBlock.within body (s.addBlock (c.blockFor cursor e)) =
        (.error f, s.addBlock (c.blockFor cursor e)) ∧
      (Items.child e inside rest).Met s c cursor (.error f : Except Failure Unit)
        (s.addBlock (c.blockFor cursor e)) := by
  obtain ⟨f, hf, hwithin⟩ := c.within_of_missing body e hc hu hn
  refine ⟨f, hwithin, .of_mismatch hf ?_⟩
  rw [hi]
  exact .noChild (List.getElem?_eq_none_iff.mp hn)

/-- Once the next child has been matched, what comes of it decides, and then what comes of the others. -/
theorem Items.Met.of_child {n : Node} {i : Nat} {outcome : Except Failure Node}
    {next : Node → Run Unit} (hw : cursor.Stands s.world) (hi : cursor.ignoring = false)
    (hn : cursor.children[cursor.next]? = some n) (hposition : View.position? cursor.children n = some i)
    (hworld : t.world = s.world) (hc : s.cursor? c = some cursor)
    (hmet : Pattern.Met ⟨e, inside⟩ cursor.config cursor.path (.child (some i)) n
      ((s.addBlock (c.blockFor cursor e)).take s.freshBlock c n) outcome t)
    (hrest : ∀ a, t.cursor? c = some { cursor with next := cursor.next + 1 } →
      rest.Met t c { cursor with next := cursor.next + 1 } (next a t).1 (next a t).2) :
    (Items.child e inside rest).Met s c cursor (andThen (outcome, t) next).1
      (andThen (outcome, t) next).2 := by
  cases hmet with
  | @conforms a _ hconforms hframe =>
      obtain ⟨hcursor, hothers⟩ := Session.cursors_of_taken hc hframe
      rw [andThen_ok]
      refine .of_rest (hrest a hcursor) hi hworld hothers ?_ fun _ _ => .afterChild hn hconforms
      intro nodes hcuts
      rw [Items.Followed.drop_eq_cons hn, Items.cuts_child_cons]
      refine ⟨?_, hcuts⟩
      rw [← hw.path]
      exact hconforms
  | wrong hfirst hplace =>
      rw [andThen_error]
      refine .wrong ?_ hplace
      rw [hi]
      exact .atChild hn hposition hfirst
  | brought hbrings =>
      rw [andThen_error]
      exact .brought hbrings

theorem Meets.child (hinside : Meets (fun d => inside.run d) inside)
    (h : ∀ {s : Session} {cursor : Cursor}, s.cursor? c = some cursor →
      cursor.IsUsable → cursor.Stands s.world → rest.Met s c cursor (rest.run c s).1 (rest.run c s).2)
    (e : Expected) (hc : s.cursor? c = some cursor) (hu : cursor.IsUsable)
    (hw : cursor.Stands s.world) :
    (Items.child e inside rest).Met s c cursor ((Items.child e inside rest).run c s).1
      ((Items.child e inside rest).run c s).2 := by
  have hrun : (Items.child e inside rest).run c = (do
      let _ ← c.child e fun inner => inside.run inner
      rest.run c) := discard_bind ..
  rw [hrun, c.child_eq_within, bind_apply, bind_apply, CursorId.childBlock_apply hc hu]
  cases hi : cursor.ignoring with
  | true =>
      obtain ⟨f, hf⟩ := Config.exists_misuse_eq (α := BlockId) cursor.config s.world cursor.path
        .childrenIgnored
      rw [if_pos rfl, hf, andThen_error, andThen_error]
      exact .of_ignoring hi (by simp) hf
  | false =>
      rw [if_neg Bool.false_ne_true, andThen_ok]
      cases hn : cursor.children[cursor.next]? with
      | none =>
          obtain ⟨f, hwithin, hmet⟩ := c.within_met_of_missing e inside rest hc hu hi hn
          rw [hwithin]
          exact hmet
      | some n =>
          -- A node may be listed twice; the report names its first position.
          obtain ⟨i, hposition, -, -⟩ := View.exists_position hn
          have hkeeps := fun d => (inside.follows d).tellNode.keeps
          have hmet := c.child_met (e := e) (Meets.tellNode hinside) hkeeps hc hu hw hn hposition
          have hworld : (s.freshBlock.within _ (s.addBlock (c.blockFor cursor e))).2.world = s.world :=
            ((s.freshBlock.keeps_within hkeeps).after (s.addBlock (c.blockFor cursor e))).world
          have hle := (List.getElem?_eq_some_iff.mp hn).1
          exact .of_child hw hi hn hposition hworld hc hmet fun _ hcursor =>
            h hcursor hu ⟨hworld ▸ hw.asked, hw.path, hle⟩

end

/-- The items of a pattern, run as a script, are gone through. -/
theorem Items.meets (items : Items) : Meets (fun c => items.run c) items := by
  induction items with
  | done =>
      intro s c cursor hc hu hw
      refine .cut hw.next ?_ hc fun d old _ hold => hold
      unfold Items.CutsUnless
      split <;> rfl
  | skip count rest ih => exact fun hc hu hw => Meets.skip ih count hc hu hw
  | child e inside rest ihinside ih =>
      exact fun hc hu hw => Meets.child ihinside ih e hc hu hw

/-! ## Patterns -/

/-- Where a pattern does not match, the failure reports the first thing that is wrong, and at the path
that is to blame, or something was brought in. -/
theorem Pattern.first_of_matchTree (p : Pattern) {c : Config} {root : Node} (hroot : root ≠ .absent)
    {s : Session} {f : Failure} (h : (p.matchTree c root s).1 = .error f) :
    c.Brings s.world f ∨ ∃ blamed wrong place,
      p.First (c.view s.world) [] .root root blamed wrong ∧
      Location.of c s.world blamed = .ok place ∧ f = wrong.failure place := by
  have hb := s.block?_freshBlock (c.rootBlock p.expected [] root)
  have hmet := BlockId.within_met (Meets.tellNode (Items.meets p.items))
    (fun d => (p.items.follows d).tellNode.keeps) hb rfl (.root rfl)
    (rfl : labelFor (c.view s.world) [] root = .ok .root)
  rw [matchTree, Config.matchTree_apply hroot] at h
  rcases hrun : s.freshBlock.within (fun cursor => do
      discard (p.items.run cursor)
      return (← Run.cursor cursor).node) (s.addBlock (c.rootBlock p.expected [] root)) with
    ⟨outcome, t⟩
  rw [hrun] at h hmet
  cases hmet with
  | conforms => cases h
  | wrong hfirst hplace =>
      cases h
      exact .inr ⟨_, _, _, hfirst, hplace, rfl⟩
  | brought hbrings =>
      cases h
      exact .inl hbrings

/-- The ways to match with a pattern fail alike. -/
theorem Pattern.error_of_script {p : Pattern} {way : Way} {c : Config} {root : Node} {s : Session}
    {f : Failure} (h : ((p.script way c root).run s).1 = .error f) :
    (p.matchTree c root s).1 = .error f := by
  have hagree := ((p.alike_script way .returning c root).run_matches s).1
  rw [hagree.error_iff, run_script, bind_apply] at h
  rcases hrun : p.matchTree c root s with ⟨g | n, t⟩
  · rw [hrun] at h
    cases h
    rfl
  · rw [hrun] at h
    cases h

theorem Pattern.matchTree_absent (p : Pattern) (c : Config) (s : Session) :
    (p.matchTree c .absent s).1 = .error (.absentRoot ((c.view s.world).typeName p.expected.type)) :=
  rfl

/-! ## Runs and patterns -/

namespace Moment

/-- In a tree that is not altered, and where matches that are taken to have nodes above them are started
at children of the last of these: every mismatch that a deed reports, unless an adapter, a printer or an
implicit check failed with it, names the nodes of a path, and what it says of the node at the end of the
path is the case.  What using a block fails with is what one of its deeds fails with, or its body.

Where a tree is matched with a pattern, in any of the ways, the failure reports the first thing that is
wrong with the tree, or with the pattern; or there is no tree; or an adapter, a printer or an implicit
check failed. -/
theorem reports_of_run (w : World) :
    (∀ ds, (∀ d ∈ ds, d.IsFrozen) → (∀ d ∈ ds, d.IsPlaced w) →
      (∀ (d : Deed) place reason,
        (d.run (sessionAfter w ds)).1 = .error (.mismatch place reason) →
        d.Foreign (sessionAfter w ds) (.mismatch place reason) ∨
          ∃ c path, place.names = Location.namesOf c w path ∧ Finds w ds d c path reason) ∧
      ∀ form (b : BlockId) (inside : CursorId → Script) f,
        (b.use form (fun c => (inside c).run) (sessionAfter w ds)).1 = .error f →
        FailsIn w ds b inside f) ∧
    ∀ (p : Pattern) way (c : Config) root (s : Session) f,
      ((p.script way c root).run s).1 = .error f →
      root = .absent ∧ f = .absentRoot ((c.view s.world).typeName p.expected.type) ∨
        c.Brings s.world f ∨ ∃ blamed wrong place,
          p.First (c.view s.world) [] .root root blamed wrong ∧
          Location.of c s.world blamed = .ok place ∧ f = wrong.failure place := by
  refine ⟨fun ds hfrozen hplaced => ⟨?_, fun form b inside f hf => failsIn_of_use hf⟩, ?_⟩
  · intro d place reason h
    exact finds_of_fault hfrozen hplaced (Deed.fault (sound_sessionAfter w ds) h)
  · intro p way c root s f h
    have hmatch := Pattern.error_of_script h
    by_cases hroot : root = .absent
    · subst hroot
      rw [p.matchTree_absent] at hmatch
      exact .inl ⟨rfl, (Except.error.inj hmatch).symm⟩
    · exact .inr (p.first_of_matchTree hroot hmatch)

/-- In the sample the first child of the pair is reported as no pair, and it is none. -/
theorem reports_of_sample :
    (∀ d ∈ samplePaths, d.IsFrozen) ∧ (∀ d ∈ samplePaths, d.IsPlaced Sample.world) ∧
      ∃ place, ((Deed.enter ⟨1⟩).run (sessionAfter Sample.world samplePaths)).1 =
          .error (.mismatch place (.wrongType (.child (some 0)) "Pair" "Leaf")) ∧
        ∃ c path, place.names = Location.namesOf c Sample.world path ∧
          Finds Sample.world samplePaths (.enter ⟨1⟩) c path
            (.wrongType (.child (some 0)) "Pair" "Leaf") := by
  have hfrozen : ∀ d ∈ samplePaths, d.IsFrozen := by
    simp [samplePaths, Deed.IsFrozen]
  have hplaced : ∀ d ∈ samplePaths, d.IsPlaced Sample.world := by
    intro d hd c above n hstarts p hp
    simp only [samplePaths, List.mem_cons, List.not_mem_nil, or_false] at hd
    rcases hd with rfl | rfl | rfl
    · cases hstarts
      cases hp
    · cases hstarts
    · cases hstarts
  have hreports := ((reports_of_run Sample.world).1 samplePaths hfrozen hplaced).1
  refine ⟨hfrozen, hplaced, _, rfl, ?_⟩
  exact (hreports (.enter ⟨1⟩) _ _ rfl).resolve_left (not_foreign_samplePaths _)

end Moment

end TreeShape
