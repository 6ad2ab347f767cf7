import TreeShape.Proofs.Matching.Failing
import TreeShape.Proofs.Shape.Pattern

/-!
# Bodies that follow a pattern

A body follows the items of a pattern if it does to the children of its cursor what the items say: it
takes those that the items cut off and touches no other cursor, or it fails for a reason that the items
have.  `BlockId.visited` is the one fact about blocks that is needed: a block whose body follows the
items matches its node exactly if the node conforms to the pattern.

Adapters and printers may fail, too.  Such failures, `Config.Refuses`, are kept apart, and restricted to
what is asked about nodes below the root of the match.

## Strategy

Success is exact, so failure has to be explained.  `Verdict` lists why something fails that would
succeed just if something conforms: a refusal, a mismatch, or a misuse where that is the first thing
wrong; each says at once that nothing conforms.

* **Accepting.**  A node that does not fit, or refuses to tell its children, conforms to nothing that
  expects it here: `accept_verdict`.
* **The body.**  It starts at a fresh cursor that has taken nothing (`cursor?_attached_fresh`), and what
  it comes to is given by the hypothesis on bodies.
* **Leaving.**  If the items have cut off all children, the node conforms; if some are left, it does
  not, as items cut off the same children every time, `Items.Cuts.rest_unique`: `visited_of_cut`.  A
  failure of the body stays what it is, since only refusals are still to be located:
  `visited_of_failed`.
* **The frame.**  Opening and leaving a block change the cursor above twice, and the second change
  undoes the first: `cursor?_released`.
-/

namespace TreeShape

open Run

/-! ## Reasons for failing -/

/-- Failures that adapters and printers bring in when asked about the tree below a node. -/
inductive Config.Refuses (c : Config) (w : World) (root : Node) : Failure → Prop
  | children {n : Node} {f : Failure} :
      (c.view w).Below root n → (c.view w).refusal n = some f → Refuses c w root f
  | type {n : Node} {t : NodeType} {f : Failure} :
      (c.view w).Below root n → (c.view w).typeRefusal n t = some f → Refuses c w root f
  | dump {n : Node} {printer : Printer} {f : Failure} :
      (c.view w).Below root n → c.printer = some printer →
      printer.render w n c.limit = .error f → Refuses c w root f
  | located {f : Failure} (place : Location) :
      Refuses c w root f → Refuses c w root (f.located place)

/-- Why a match fails that would succeed just if something conforms: a refusal, or else a mismatch or a
misuse, whichever is right. -/
inductive Verdict (c : Config) (w : World) (root : Node) (conforms misuses : Prop) :
    Failure → Prop
  | refused {f : Failure} : c.Refuses w root f → ¬ conforms → Verdict c w root conforms misuses f
  | mismatch (place : Location) (reason : Mismatch) : ¬ conforms → ¬ misuses →
      Verdict c w root conforms misuses (.mismatch place reason)
  | misuse (place : Location) (reason : Misuse) : ¬ conforms → misuses →
      Verdict c w root conforms misuses (.misuse place reason)

section

variable {α : Type} {c : Config} {w : World} {root : Node}
  {conforms misuses conforms' misuses' : Prop} {f : Failure} {path : List Node}

theorem Verdict.imp (h : Verdict c w root conforms misuses f) (hc : conforms' → conforms)
    (hm : misuses' ↔ misuses) : Verdict c w root conforms' misuses' f := by
  cases h with
  | refused hf hn => exact .refused hf fun h => hn (hc h)
  | mismatch place reason hn hn' =>
      exact .mismatch place reason (fun h => hn (hc h)) fun h => hn' (hm.mp h)
  | misuse place reason hn h => exact .misuse place reason (fun h => hn (hc h)) (hm.mpr h)

theorem Verdict.not_conforms (h : Verdict c w root conforms misuses f) : ¬ conforms := by
  cases h with
  | refused _ hn => exact hn
  | mismatch _ _ hn _ => exact hn
  | misuse _ _ hn _ => exact hn

/-- A place below the root can be told unless the printer fails. -/
theorem Location.of_cases (hpath : ∀ n, path.getLast? = some n → (c.view w).Below root n) :
    (∃ place, Location.of c w path = .ok place) ∨
      ∃ f, Location.of c w path = .error f ∧ c.Refuses w root f := by
  unfold Location.of Location.dumpOf
  cases hprinter : c.printer with
  | none => exact .inl ⟨_, rfl⟩
  | some printer =>
      cases hlast : path.getLast? with
      | none => exact .inl ⟨_, rfl⟩
      | some n =>
          dsimp only
          cases hdump : printer.render w n c.limit with
          | error f => exact .inr ⟨f, rfl, .dump (hpath n hlast) hprinter hdump⟩
          | ok dump => exact .inl ⟨_, rfl⟩

theorem Config.mismatch_verdict
    (hpath : ∀ n, path.getLast? = some n → (c.view w).Below root n) (reason : Mismatch)
    (hc : ¬ conforms) (hm : ¬ misuses) :
    ∃ f, (c.mismatch w path reason : Except Failure α) = .error f ∧
      Verdict c w root conforms misuses f := by
  rcases Location.of_cases hpath with ⟨place, hplace⟩ | ⟨f, hf, hrefuses⟩
  · exact ⟨_, mismatch_of_location hplace reason, .mismatch place reason hc hm⟩
  · exact ⟨f, by rw [Config.mismatch, hf]; rfl, .refused hrefuses hc⟩

theorem Config.misuse_verdict
    (hpath : ∀ n, path.getLast? = some n → (c.view w).Below root n) (reason : Misuse)
    (hc : ¬ conforms) (hm : misuses) :
    ∃ f, (c.misuse w path reason : Except Failure α) = .error f ∧
      Verdict c w root conforms misuses f := by
  rcases Location.of_cases hpath with ⟨place, hplace⟩ | ⟨f, hf, hrefuses⟩
  · exact ⟨_, misuse_of_location hplace reason, .misuse place reason hc hm⟩
  · exact ⟨f, by rw [Config.misuse, hf]; rfl, .refused hrefuses hc⟩

/-- Only refusals are still to be located, and they stay refusals. -/
theorem Verdict.locate (hpath : ∀ n, path.getLast? = some n → (c.view w).Below root n)
    (h : Verdict c w root conforms misuses f) (hwants : f.wantsLocation = true) :
    Verdict c w root conforms misuses (c.locate w path f) := by
  cases h with
  | refused hf hc =>
      unfold Config.locate
      rcases Location.of_cases hpath with ⟨place, hplace⟩ | ⟨g, hg, hrefuses⟩
      · rw [hplace]
        exact .refused (.located place hf) hc
      · rw [hg]
        exact .refused hrefuses hc
  | mismatch => simp [Failure.wantsLocation, Failure.isLocated, Failure.path] at hwants
  | misuse => simp [Failure.wantsLocation, Failure.kind, FailureKind.isAssertion] at hwants

end

/-! ## Following -/

/-- What is known of the cursor of a node below the root of a match without implicit checks. -/
structure Cursor.Watches (cursor : Cursor) (w : World) (root : Node) : Prop where
  implicit : cursor.config.implicit = none
  asked : (cursor.config.view w).ask cursor.node = .ok cursor.children
  path : cursor.path.getLast? = some cursor.node
  below : (cursor.config.view w).Below root cursor.node
  next : cursor.next ≤ cursor.children.length

theorem Cursor.Watches.advance {cursor : Cursor} {w : World} {root : Node} {next : Nat}
    (h : cursor.Watches w root) (hnext : next ≤ cursor.children.length) :
    Cursor.Watches { cursor with next := next } w root :=
  ⟨h.implicit, h.asked, h.path, h.below, hnext⟩

theorem Cursor.Watches.below_path {cursor : Cursor} {w : World} {root : Node}
    (h : cursor.Watches w root) (n : Node) (hn : cursor.path.getLast? = some n) :
    (cursor.config.view w).Below root n := by
  rw [h.path] at hn
  cases hn
  exact h.below

/-- What comes of doing to the children of a cursor what the items of a pattern say. -/
inductive Items.Followed {α : Type} (items : Items) (root : Node) (s : Session) (c : CursorId)
    (cursor : Cursor) : Except Failure α → Session → Prop
  | cut {a : α} {t : Session} {next : Nat} : next ≤ cursor.children.length →
      items.CutsUnless cursor.ignoring (cursor.config.view s.world) cursor.node
        (cursor.children.drop cursor.next) (cursor.children.drop next) →
      t.cursor? c = some { cursor with next := next } →
      (∀ d old, d ≠ c → s.cursor? d = some old → t.cursor? d = some old) →
      Followed items root s c cursor (.ok a) t
  | failed {f : Failure} {t : Session} :
      Verdict cursor.config s.world root
        (∃ rest, items.CutsUnless cursor.ignoring (cursor.config.view s.world) cursor.node
          (cursor.children.drop cursor.next) rest)
        (items.MisusesIf cursor.ignoring (cursor.config.view s.world) cursor.node
          (cursor.children.drop cursor.next)) f →
      Followed items root s c cursor (.error f) t

/-- What is done at a cursor does to its children what the items say. -/
structure FollowsAt {α : Type} (c : CursorId) (x : Run α) (items : Items) : Prop where
  keeps : Keeps Session.Changes x
  followed : ∀ {s : Session} {cursor : Cursor} {root : Node},
    s.cursor? c = some cursor → cursor.IsUsable → cursor.Watches s.world root →
    items.Followed root s c cursor (x s).1 (x s).2

/-- The body does what the items say wherever it is called. -/
def Follows {α : Type} (body : CursorId → Run α) (items : Items) : Prop :=
  ∀ c, FollowsAt c (body c) items

/-- What comes of matching a node with a pattern: every cursor that was there is as it was, or the match
fails for a reason that the pattern has. -/
inductive Pattern.Visited {α : Type} (p : Pattern) (c : Config) (parent? : Option Node)
    (root n : Node) (s : Session) : Except Failure α → Session → Prop
  | conforms {a : α} {t : Session} : p.Conforms (c.view s.world) parent? n →
      (∀ d old, s.cursor? d = some old → t.cursor? d = some old) →
      Visited p c parent? root n s (.ok a) t
  | failed {f : Failure} {t : Session} :
      Verdict c s.world root (p.Conforms (c.view s.world) parent? n)
        (p.Misuses (c.view s.world) parent? n) f →
      Visited p c parent? root n s (.error f) t

/-- What is known of a block for a node below the root of a match without implicit checks. -/
structure Block.Awaits (block : Block) (w : World) (root n : Node) : Prop where
  implicit : block.config.implicit = none
  below : (block.config.view w).Below root n
  parent : ∀ p, block.parentPath.getLast? = some p →
    (block.config.view w).Below root p ∧ ∃ nodes, (block.config.view w).ask p = .ok nodes

/-- The block for the root of a match does. -/
theorem Config.awaits_rootBlock {c : Config} (hi : c.implicit = none) (e : Expected) (w : World)
    (root : Node) : (c.rootBlock e [] root).Awaits w root root where
  implicit := hi
  below := .refl
  parent p hp := absurd hp (Option.some_ne_none p).symm

/-! ## Visiting -/

/-- Asked for their children, nodes below the root lead to nodes below the root. -/
theorem View.below_of_ask {v : View} {root n child : Node} {nodes : List Node}
    (hn : v.Below root n) (hask : v.ask n = .ok nodes) (hchild : child ∈ nodes) :
    v.Below root child := by
  rw [← View.children_of_ask hask] at hchild
  exact Relation.ReflTransGen.tail hn hchild

namespace BlockId

variable {α : Type} {s : Session} {b : BlockId} {block : Block} {n root : Node}

/-- A node is accepted if it fits and tells its children, whatever else it has to conform to. -/
theorem accept_verdict {conforms misuses : Prop} (hb : s.block? b = some block)
    (ha : block.Awaits s.world root n)
    (hconforms : conforms →
      (block.config.view s.world).Fits block.parentPath.getLast? block.expected n ∧
        ∃ below, (block.config.view s.world).ask n = .ok below)
    (hmisuses : misuses →
      (block.config.view s.world).Fits block.parentPath.getLast? block.expected n) :
    (∃ f t, b.accept n s = (.error f, t) ∧
        Verdict block.config s.world root conforms misuses f) ∨
      (block.config.view s.world).Fits block.parentPath.getLast? block.expected n ∧
        ∃ e below, (block.config.view s.world).ask n = .ok below ∧
          b.accept n s = (.ok s.freshCursor, (s.record e).attach b block n below) := by
  -- A node that does not fit is reported at the path above, unless the dump there fails.
  have hmismatch : ∀ {reason : Mismatch} {f : Failure},
      (block.config.mismatch s.world block.parentPath reason : Except Failure CursorId) = .error f →
      ¬ (block.config.view s.world).Fits block.parentPath.getLast? block.expected n →
      Verdict block.config s.world root conforms misuses f := by
    intro reason f hf hfits
    obtain ⟨g, hg, hverdict⟩ := Config.mismatch_verdict (α := CursorId)
      (fun p hp => (ha.parent p hp).1) reason (fun h => hfits (hconforms h).1)
      (fun h => hfits (hmisuses h))
    rw [hf] at hg
    cases hg
    exact hverdict
  rcases haccept : b.accept n s with ⟨outcome, t⟩
  cases accepting_of_eq hb haccept with
  | unlabelled hl => exact absurd hl (labelFor_ne_error fun p hp => (ha.parent p hp).2)
  | untyped htype =>
      refine .inl ⟨_, s, rfl, .refused (.type ha.below (View.typeRefusal_of_askType htype)) ?_⟩
      intro h
      rw [(hconforms h).1.1] at htype
      cases htype
  | wrongType _ htype hf =>
      refine .inl ⟨_, s, rfl, hmismatch hf fun h => ?_⟩
      rw [h.1] at htype
      cases htype
  | wrongParent _ _ hp hlink hf =>
      refine .inl ⟨_, s, rfl, hmismatch hf fun h => ?_⟩
      rw [← hp, h.2] at hlink
      cases hlink
  | childless _ _ _ hask =>
      refine .inl ⟨_, _, rfl, .refused (.children ha.below (View.refusal_of_ask hask)) ?_⟩
      intro h
      obtain ⟨-, below, hbelow⟩ := hconforms h
      rw [hask] at hbelow
      cases hbelow
  | attached htype hlink _ hask => exact .inr ⟨⟨htype, hlink⟩, _, _, hask, rfl⟩

/-- A block that has taken its node, as the body finds it. -/
theorem block?_attached (hb : s.block? b = some block) (children : List Node) (e : Event) :
    ((s.record e).attach b block n children).block? b =
      some { block with cursor := some s.freshCursor } := by
  rw [Session.block?_attach, if_pos rfl, Session.block?_record, hb]
  rfl

/-- The cursor of an open block, and the cursors that were there before, as the body finds them. -/
theorem cursor?_attached (children : List Node) (e : Event)
    (hp : ∀ p, block.parentCursor = some p → ∃ cursor, s.cursor? p = some cursor ∧ cursor.IsUsable)
    (d : CursorId) :
    ((s.record e).attach b block n children).cursor? d = if d = s.freshCursor then
        some (block.cursorFor n children)
      else (s.cursor? d).map fun cursor => { cursor with
        activeChild := if block.parentCursor = some d then some s.freshCursor
          else cursor.activeChild } := by
  apply Session.cursor?_attach
  exact Session.ne_freshCursor_of_parents hp

/-- The cursor of an open block, as the body finds it. -/
theorem cursor?_attached_fresh (children : List Node) (e : Event)
    (hp : ∀ p, block.parentCursor = some p → ∃ cursor, s.cursor? p = some cursor ∧ cursor.IsUsable) :
    ((s.record e).attach b block n children).cursor? s.freshCursor =
      some (block.cursorFor n children) := by
  rw [cursor?_attached children e hp, if_pos rfl]

/-- Once a block is released, every cursor that was there before its body is as it was. -/
theorem cursor?_released {t : Session} {children : List Node} {e : Event}
    (hp : ∀ p, block.parentCursor = some p → ∃ cursor, s.cursor? p = some cursor ∧ cursor.IsUsable)
    (ht : ∀ d old, d ≠ s.freshCursor →
      ((s.record e).attach b block n children).cursor? d = some old → t.cursor? d = some old)
    {d : CursorId} {old : Cursor} (hd : s.cursor? d = some old) :
    (t.release s.freshCursor block.parentCursor).cursor? d = some old := by
  have hfresh := Session.ne_freshCursor hd
  have hattached := cursor?_attached (b := b) (n := n) children e hp d
  rw [if_neg hfresh, hd] at hattached
  rw [Session.cursor?_release, ht d _ hfresh hattached]
  simp only [Option.map_some, hfresh, decide_false, Bool.or_false, Option.some.injEq]
  by_cases hparent : block.parentCursor = some d
  · obtain ⟨cursor, hcursor, hu⟩ := hp d hparent
    rw [hd] at hcursor
    cases hcursor
    simp only [hparent, if_true]
    rw [← hu.2]
  · simp only [hparent, if_false]

/-- If children are counted and the items have cut off all of them, or if they are not counted, the items
are satisfied. -/
theorem cutsUnless_nil {items : Items} {ignoring : Bool} {v : View} {children : List Node} {next : Nat}
    (hcuts : items.CutsUnless ignoring v n children (children.drop next))
    (hcounted : (ignoring || next == children.length) = true) :
    items.CutsUnless ignoring v n children [] := by
  cases ignoring with
  | true => exact hcuts
  | false =>
      have hnext : next = children.length := by simpa using hcounted
      rw [hnext, List.drop_length] at hcuts
      exact hcuts

/-- If the items cut off the first children, what is left of them decides. -/
theorem leave_cut {items : Items} {t : Session} {c : CursorId} {children : List Node} {next : Nat}
    (hb : t.block? b = some block) (hc : block.cursor = some c)
    (hi : block.config.implicit = none)
    (hcursor : t.cursor? c = some { block.cursorFor n children with next := next })
    (hle : next ≤ children.length) (hbelow : (block.config.view t.world).Below root n)
    (hcuts : items.CutsUnless block.expected.ignoring (block.config.view t.world) n children
      (children.drop next)) (a : α) :
    (b.leave (.ok a) t = (.ok a, t.release c block.parentCursor) ∧
        items.CutsUnless block.expected.ignoring (block.config.view t.world) n children []) ∨
      ∃ f u, b.leave (.ok a) t = (.error f, u) ∧ Verdict block.config t.world root
        (items.CutsUnless block.expected.ignoring (block.config.view t.world) n children [])
        (items.MisusesIf block.expected.ignoring (block.config.view t.world) n children) f := by
  have hleave : b.leave (.ok a) t = (if block.expected.ignoring || next == children.length then .ok a
      else block.config.mismatch t.world (block.parentPath ++ [n])
        (.childCount next children.length), t.release c block.parentCursor) :=
    leave_ok hb hc hi hcursor a
  rw [hleave]
  by_cases hcounted : (block.expected.ignoring || next == children.length) = true
  · exact .inl ⟨by rw [if_pos hcounted], cutsUnless_nil hcuts hcounted⟩
  · obtain ⟨hignoring, hnext⟩ : block.expected.ignoring = false ∧ next ≠ children.length := by
      simpa using hcounted
    rw [hignoring] at hcuts
    -- Items cut off as many nodes one time as another, and these have left some.
    have hrest : ¬ items.CutsUnless false (block.config.view t.world) n children [] := by
      intro h
      have hnil := Items.Cuts.rest_unique hcuts h
      rw [List.drop_eq_nil_iff] at hnil
      omega
    have hpath : ∀ m, (block.parentPath ++ [n]).getLast? = some m →
        (block.config.view t.world).Below root m := by
      intro m hm
      rw [List.getLast?_concat] at hm
      cases hm
      exact hbelow
    obtain ⟨f, hf, hverdict⟩ := Config.mismatch_verdict (α := α) hpath
      (.childCount next children.length) hrest hcuts.not_misusesIf
    rw [if_neg hcounted, hf, hignoring]
    exact .inr ⟨f, _, rfl, hverdict⟩

/-- A failure that the items have a reason for is still one when the block has been left. -/
theorem leave_failed {conforms misuses : Prop} {t : Session} {c : CursorId} {cursor : Cursor}
    {f : Failure} (hb : t.block? b = some block) (hc : block.cursor = some c)
    (hcursor : t.cursor? c = some cursor)
    (hpath : ∀ n, cursor.path.getLast? = some n → (cursor.config.view t.world).Below root n)
    (hf : Verdict cursor.config t.world root conforms misuses f) :
    ∃ g u, b.leave (.error f : Except Failure α) t = (.error g, u) ∧
      Verdict cursor.config t.world root conforms misuses g := by
  cases hwants : f.wantsLocation with
  | false => exact ⟨f, _, leave_of_other hb hc hwants, hf⟩
  | true => exact ⟨_, _, leave_of_assertion hb hc hcursor hwants, hf.locate hpath hwants⟩

section

variable {items : Items} {t : Session} {children : List Node} {e : Event}

/-- A body that followed the items came to its end: the children that are left decide. -/
theorem visited_of_cut {next : Nat} (ha : block.Awaits s.world root n)
    (hp : ∀ p, block.parentCursor = some p → ∃ cursor, s.cursor? p = some cursor ∧ cursor.IsUsable)
    (hfits : (block.config.view s.world).Fits block.parentPath.getLast? block.expected n)
    (hask : (block.config.view s.world).ask n = .ok children)
    (hb : t.block? b = some { block with cursor := some s.freshCursor }) (hworld : t.world = s.world)
    (hcursor : t.cursor? s.freshCursor = some { block.cursorFor n children with next := next })
    (hframe : ∀ d old, d ≠ s.freshCursor →
      ((s.record e).attach b block n children).cursor? d = some old → t.cursor? d = some old)
    (hle : next ≤ children.length)
    (hcuts : items.CutsUnless block.expected.ignoring (block.config.view s.world) n children
      (children.drop next)) (a : α) :
    Pattern.Visited ⟨block.expected, items⟩ block.config block.parentPath.getLast? root n s
      (b.leave (.ok a) t).1 (b.leave (.ok a) t).2 := by
  have hbelow := ha.below
  rw [← hworld] at hcuts hbelow
  have hleave := leave_cut hb rfl ha.implicit hcursor hle hbelow hcuts a
  rw [hworld] at hleave
  rcases hleave with ⟨hok, hnil⟩ | ⟨f, u, hf, hverdict⟩
  · rw [hok]
    refine .conforms ((Pattern.conforms_iff hfits hask).mpr hnil) fun d old hd => ?_
    exact cursor?_released hp hframe hd
  · rw [hf]
    refine .failed ?_
    exact hverdict.imp (Pattern.conforms_iff hfits hask).mp (Pattern.misuses_iff hfits hask)

/-- A body that followed the items failed, and the block has nothing to add but a location. -/
theorem visited_of_failed {later : Cursor} {f : Failure} (ha : block.Awaits s.world root n)
    (hfits : (block.config.view s.world).Fits block.parentPath.getLast? block.expected n)
    (hask : (block.config.view s.world).ask n = .ok children)
    (hb : t.block? b = some { block with cursor := some s.freshCursor }) (hworld : t.world = s.world)
    (hlater : t.cursor? s.freshCursor = some later)
    (hgrows : (block.cursorFor n children).Grows later)
    (hf : Verdict block.config s.world root
      (∃ rest, items.CutsUnless block.expected.ignoring (block.config.view s.world) n children rest)
      (items.MisusesIf block.expected.ignoring (block.config.view s.world) n children) f) :
    Pattern.Visited ⟨block.expected, items⟩ block.config block.parentPath.getLast? root n s
      (b.leave (.error f : Except Failure α) t).1 (b.leave (.error f : Except Failure α) t).2 := by
  have hconforms := Pattern.conforms_iff (p := ⟨block.expected, items⟩) hfits hask
  have hmisuses := Pattern.misuses_iff (p := ⟨block.expected, items⟩) hfits hask
  have hverdict := hf.imp (fun h => ⟨[], hconforms.mp h⟩) hmisuses
  have hconfig : later.config = block.config := hgrows.config
  have hpath : ∀ m, later.path.getLast? = some m → (later.config.view t.world).Below root m := by
    intro m hm
    rw [hgrows.path, Block.cursorFor, List.getLast?_concat] at hm
    cases hm
    rw [hconfig, hworld]
    exact ha.below
  rw [← hconfig, ← hworld] at hverdict
  obtain ⟨g, u, hg, hlast⟩ := leave_failed (α := α) hb rfl hlater hpath hverdict
  rw [hg]
  rw [hconfig, hworld] at hlast
  exact .failed hlast

end

/-- What comes of a block that has taken its node and whose body follows the items. -/
theorem accept_visited {body : CursorId → Run α} {items : Items} (hbody : Follows body items)
    (hb : s.block? b = some block) (ha : block.Awaits s.world root n)
    (hp : ∀ p, block.parentCursor = some p → ∃ cursor, s.cursor? p = some cursor ∧ cursor.IsUsable) :
    Pattern.Visited ⟨block.expected, items⟩ block.config block.parentPath.getLast? root n s
      (andThen (b.accept n s) fun c => do b.leave (← attempt (body c))).1
      (andThen (b.accept n s) fun c => do b.leave (← attempt (body c))).2 := by
  rcases accept_verdict hb ha
    (fun h : Pattern.Conforms ⟨block.expected, items⟩ (block.config.view s.world)
      block.parentPath.getLast? n => ⟨h.1, h.2.imp fun _ hbelow => hbelow.1⟩)
    (fun h : Pattern.Misuses ⟨block.expected, items⟩ (block.config.view s.world)
      block.parentPath.getLast? n => h.1)
    with ⟨f, t, hf, hverdict⟩ | ⟨hfits, e, children, hask, hok⟩
  · rw [hf, andThen_error]
    exact .failed hverdict
  rw [hok, andThen_ok, bind_apply, attempt_apply, andThen_ok]
  have hcursor := cursor?_attached_fresh (b := b) (n := n) children e hp
  have hworld : ((s.record e).attach b block n children).world = s.world :=
    Session.world_attach ..
  have hwatches : (block.cursorFor n children).Watches
      ((s.record e).attach b block n children).world root := by
    rw [hworld]
    exact ⟨ha.implicit, hask, by simp [Block.cursorFor], ha.below, Nat.zero_le _⟩
  -- The body starts at a cursor that has taken no child yet.
  have hfollowed := (hbody s.freshCursor).followed hcursor ⟨rfl, rfl⟩ hwatches
  have hchanges := (hbody s.freshCursor).keeps.after ((s.record e).attach b block n children)
  obtain ⟨outcome, t, hrun⟩ : ∃ outcome t,
      body s.freshCursor ((s.record e).attach b block n children) = (outcome, t) := ⟨_, _, rfl⟩
  rw [hrun] at hfollowed hchanges ⊢
  have hblock := hchanges.grows.block_eq (block?_attached hb children e) rfl
  have hworld' : t.world = s.world := hchanges.world.trans hworld
  obtain ⟨later, hlater, hgrows⟩ := hchanges.grows.cursor hcursor
  dsimp only at hfollowed ⊢
  cases hfollowed with
  | cut hle hcuts hcur hframe =>
      rw [hworld] at hcuts
      exact visited_of_cut ha hp hfits hask hblock hworld' hcur hframe hle hcuts _
  | failed hverdict =>
      rw [hworld] at hverdict
      exact visited_of_failed ha hfits hask hblock hworld' hlater hgrows hverdict

/-- A block whose body follows the items matches its node if the node conforms to them. -/
theorem visited {body : CursorId → Run α} {items : Items} {taken : Session}
    (hbody : Follows body items) (hb : s.block? b = some block) (hc : block.cursor = none)
    (ht : Takes s b block n taken) (ha : block.Awaits s.world root n) :
    Pattern.Visited ⟨block.expected, items⟩ block.config block.parentPath.getLast? root n taken
      (b.within body s).1 (b.within body s).2 := by
  obtain ⟨htaken, hworld, -⟩ := takes_block hb ht
  obtain ⟨-, hparent⟩ := takes_change (R := Session.Changes) hb hc ht
  rw [← hworld] at ha
  rw [within_eq, bind_apply, open_apply hb hc, takeNode_of_takes hb ht, andThen_ok]
  have hvisited := accept_visited hbody htaken ⟨ha.implicit, ha.below, ha.parent⟩ hparent
  exact hvisited

end BlockId

end TreeShape
