import TreeShape.Proofs.Matching.Failing
import TreeShape.Proofs.Sample
import TreeShape.Proofs.Script

/-!
# What deeds fail with

`Session.Fault` lists everything that a deed can fail with, each entry under the condition that it tells
of and, where it has a place, with that place.  Entering a block is blamed on the path above the block,
or on the cursor that should have given out a child; everything else is blamed on the cursor that was
used or the one whose block was left.

What adapters, printers and implicit checks fail with is kept apart, `Deed.Foreign`: it can be anything.

## Strategy

`Deed.fault` says that the list is complete.  It goes through the deeds, and for entering and leaving
blocks through the steps of these (`fault_of_takeNode`, `fault_of_accept`, `fault_of_exit`).  At each
step there are two ways to fail: with what the step itself has to say, which becomes an entry of the
list as soon as its place is told (`Config.mismatch_cases`, `Config.misuse_cases`), or with what telling
the place fails with, which is foreign.  That a cursor is used which there is, and that its block is the
right one, comes from `Session.Sound`.
-/

namespace TreeShape

open Run

/-- The cursor that a deed uses.  Entering a block uses the cursor that made the block. -/
inductive Deed.Uses (s : Session) : Deed → CursorId → Prop
  | childBlock (c : CursorId) (e : Expected) : Uses s (childBlock c e) c
  | skip (c : CursorId) (count : Int) : Uses s (skip c count) c
  | enter {b : BlockId} {block : Block} {c : CursorId} : s.block? b = some block →
      block.parentCursor = some c → Uses s (enter b) c

/-- Why a cursor refuses to be used. -/
inductive Cursor.Misused (cursor : Cursor) (s : Session) : Misuse → Prop
  | afterBlock : cursor.closed = true → Misused cursor s .afterBlock
  | insideChild {a : CursorId} {child : Cursor} : cursor.closed = false →
      cursor.activeChild = some a → s.cursor? a = some child →
      Misused cursor s (.insideChild ((cursor.config.view s.world).nodeName child.node))
  | childrenIgnored : cursor.IsUsable → cursor.ignoring = true → Misused cursor s .childrenIgnored

/-- A block has been opened, and this is its cursor. -/
def Session.Owns (s : Session) (b : BlockId) (block : Block) (cursor : Cursor) : Prop :=
  ∃ c, s.block? b = some block ∧ block.cursor = some c ∧ s.cursor? c = some cursor

/-- The failure is that of an adapter, a printer or an implicit check which the deed asks. -/
inductive Deed.Foreign (s : Session) : Deed → Failure → Prop
  | used {d : Deed} {c : CursorId} {cursor : Cursor} {f : Failure} : d.Uses s c →
      s.cursor? c = some cursor → cursor.config.Fails s.world f → Foreign s d f
  | entered {b : BlockId} {block : Block} {f : Failure} : s.block? b = some block →
      block.config.Fails s.world f → Foreign s (enter b) f
  | left {b : BlockId} {block : Block} {cursor : Cursor} {failure : Option Failure} {f : Failure} :
      s.Owns b block cursor → cursor.config.Fails s.world f → Foreign s (exit b failure) f
  | checked {b : BlockId} {block : Block} {cursor : Cursor} {check : ImplicitCheck} {f : Failure} :
      s.Owns b block cursor → block.config.implicit = some check →
      check.run s.world block.node = .error f → f.wantsLocation = false → Foreign s (exit b none) f

/-- An assertion without a location gets to the end of a block: the body failed with it, or the implicit
check. -/
inductive Block.Meets (block : Block) (w : World) : Option Failure → Failure → Prop
  | body {f : Failure} : f.wantsLocation = true → Meets block w (some f) f
  | check {check : ImplicitCheck} {f : Failure} : f.wantsLocation = true →
      block.config.implicit = some check → check.run w block.node = .error f → Meets block w none f

/-- All that deeds can fail with. -/
inductive Session.Fault (s : Session) : Deed → Failure → Prop
  /-- A match is started at an empty place. -/
  | absentRoot (c : Config) (e : Expected) :
      Fault s (.matching c e .absent) (.absentRoot ((c.view s.world).typeName e.type))
  | negativeSkip (c : CursorId) {count : Int} : count < 0 →
      Fault s (.skip c count) (.negativeSkip count)
  | reentered {b : BlockId} {block : Block} {c : CursorId} : s.block? b = some block →
      block.cursor = some c → Fault s (.enter b) .reentered
  /-- The deed is about something that was never made, or leaves a block that was never open. -/
  | unopened (d : Deed) : Fault s d .unopened
  | misuse {d : Deed} {c : CursorId} {cursor : Cursor} {place : Location} {reason : Misuse} :
      d.Uses s c → s.cursor? c = some cursor → cursor.Misused s reason →
      Location.of cursor.config s.world cursor.path = .ok place → Fault s d (.misuse place reason)
  /-- There is no child for the block. -/
  | noChild {b : BlockId} {block : Block} {c : CursorId} {cursor : Cursor} {place : Location} :
      s.block? b = some block → block.parentCursor = some c → s.cursor? c = some cursor →
      cursor.children.length ≤ cursor.next →
      Location.of cursor.config s.world cursor.path = .ok place →
      Fault s (.enter b) (.mismatch place (.missingChild cursor.next))
  /-- There are not so many children to skip. -/
  | farSkip {c : CursorId} {cursor : Cursor} {count : Int} {place : Location} :
      s.cursor? c = some cursor → cursor.children.length < cursor.next + count.toNat →
      Location.of cursor.config s.world cursor.path = .ok place →
      Fault s (.skip c count) (.mismatch place (.missingChild (cursor.next + count.toNat - 1)))
  | wrongType {b : BlockId} {block : Block} {n : Node} {taken : Session} {label : Label}
      {place : Location} : s.block? b = some block → block.cursor = none →
      BlockId.Takes s b block n taken →
      labelFor (block.config.view s.world) block.parentPath n = .ok label →
      (block.config.view s.world).askType n block.expected.type = .ok false →
      Location.of block.config s.world block.parentPath = .ok place →
      Fault s (.enter b)
        (.mismatch place ((block.config.view s.world).wrongType label block.expected.type n))
  | wrongParent {b : BlockId} {block : Block} {n p : Node} {taken : Session} {label : Label}
      {place : Location} : s.block? b = some block → block.cursor = none →
      BlockId.Takes s b block n taken →
      labelFor (block.config.view s.world) block.parentPath n = .ok label →
      block.parentPath.getLast? = some p →
      (block.config.view s.world).isLinkedTo (some p) n = false →
      Location.of block.config s.world block.parentPath = .ok place →
      Fault s (.enter b) (.mismatch place ((block.config.view s.world).wrongParent label p n))
  /-- A block is left before all children of its node have been taken. -/
  | childCount {b : BlockId} {block : Block} {cursor : Cursor} {place : Location} :
      s.Owns b block cursor → cursor.ignoring = false → cursor.next ≠ cursor.children.length →
      Location.of cursor.config s.world cursor.path = .ok place →
      Fault s (.exit b none) (.mismatch place (.childCount cursor.next cursor.children.length))
  /-- An assertion gets the location of the block. -/
  | located {b : BlockId} {block : Block} {cursor : Cursor} {place : Location}
      {failure : Option Failure} {f : Failure} : s.Owns b block cursor →
      block.Meets s.world failure f →
      Location.of cursor.config s.world cursor.path = .ok place →
      Fault s (.exit b failure) (f.located place)
  | foreign {d : Deed} {f : Failure} : d.Foreign s f → Fault s d f

/-! ## What views tell -/

/-- A node that stands at a position is found at the first position where it stands. -/
theorem View.exists_position {nodes : List Node} {n : Node} {k : Nat} (h : nodes[k]? = some n) :
    ∃ i, View.position? nodes n = some i ∧ nodes[i]? = some n ∧
      ((∀ j < k, nodes[j]? ≠ some n) → i = k) := by
  have hmem : n ∈ nodes := List.mem_of_getElem? h
  obtain ⟨i, hi⟩ := Option.ne_none_iff_exists'.mp fun hnone => View.position?_eq_none_iff.mp hnone hmem
  obtain ⟨hget, hfirst⟩ := View.position?_eq_some_iff.mp hi
  refine ⟨i, hi, hget, fun hnot => ?_⟩
  rcases Nat.lt_trichotomy i k with hlt | heq | hgt
  · exact absurd hget (hnot i hlt)
  · exact heq
  · have htaken : (nodes.take i)[k]? = some n := (List.getElem?_take_of_lt hgt).trans h
    exact absurd (List.mem_of_getElem? htaken) hfirst

theorem View.isInstance_of_askType {v : View} {n : Node} {t : NodeType} {fits : Bool}
    (h : v.askType n t = .ok fits) : v.isInstance n t = fits := by
  unfold View.askType at h
  cases hr : v.typeRefusal n t with
  | none => simpa [hr] using h
  | some f => simp [hr] at h

theorem View.parent_of_isLinkedTo {v : View} {p n : Node} (h : v.isLinkedTo (some p) n = false) :
    v.parent n ≠ p := by
  unfold View.isLinkedTo at h
  rintro rfl
  simp at h

/-! ## Failing at a place -/

namespace Config

variable {α : Type} {c : Config} {w : World} {path : List Node} {f : Failure}

theorem location_cases (c : Config) (w : World) (path : List Node) :
    (∃ place, Location.of c w path = .ok place) ∨
      ∃ f, Location.of c w path = .error f ∧ c.Fails w f := by
  cases hplace : Location.of c w path with
  | ok place => exact .inl ⟨place, rfl⟩
  | error f => exact .inr ⟨f, rfl, fails_of_dumpOf (Location.dumpOf_eq_error hplace)⟩

/-- Failing with a mismatch at a place fails with it, unless the dump fails. -/
theorem mismatch_cases {reason : Mismatch}
    (h : (c.mismatch w path reason : Except Failure α) = .error f) :
    (∃ place, Location.of c w path = .ok place ∧ f = .mismatch place reason) ∨ c.Fails w f := by
  rcases c.location_cases w path with ⟨place, hplace⟩ | ⟨g, hg, hfails⟩
  · rw [mismatch_of_location hplace] at h
    exact .inl ⟨place, hplace, (Except.error.inj h).symm⟩
  · rw [Config.mismatch, hg] at h
    exact .inr (Except.error.inj h ▸ hfails)

theorem misuse_cases {reason : Misuse}
    (h : (c.misuse w path reason : Except Failure α) = .error f) :
    (∃ place, Location.of c w path = .ok place ∧ f = .misuse place reason) ∨ c.Fails w f := by
  rcases c.location_cases w path with ⟨place, hplace⟩ | ⟨g, hg, hfails⟩
  · rw [misuse_of_location hplace] at h
    exact .inl ⟨place, hplace, (Except.error.inj h).symm⟩
  · rw [Config.misuse, hg] at h
    exact .inr (Except.error.inj h ▸ hfails)

end Config

/-! ## Cursors -/

section

variable {α : Type} {s t : Session} {d : Deed} {c : CursorId} {cursor : Cursor} {f : Failure}

/-- A cursor that refuses blames its own path. -/
theorem Session.Fault.of_misuse {reason : Misuse} (hd : d.Uses s c) (hc : s.cursor? c = some cursor)
    (hreason : cursor.Misused s reason)
    (h : (cursor.config.misuse s.world cursor.path reason : Except Failure α) = .error f) :
    s.Fault d f := by
  rcases Config.misuse_cases h with ⟨place, hplace, rfl⟩ | hfails
  · exact .misuse hd hc hreason hplace
  · exact .foreign (.used hd hc hfails)

theorem CursorId.fault_of_checkUsable (hd : d.Uses s c) (h : c.checkUsable s = (.error f, t)) :
    s.Fault d f := by
  cases hc : s.cursor? c with
  | none =>
      simp only [checkUsable, bind_apply, cursor_of_missing hc, andThen_error] at h
      cases h
      exact .unopened d
  | some cursor =>
      cases hclosed : cursor.closed with
      | true =>
          rw [checkUsable_of_closed hc hclosed] at h
          exact .of_misuse hd hc (.afterBlock hclosed) (congrArg Prod.fst h)
      | false =>
          cases ha : cursor.activeChild with
          | none =>
              rw [checkUsable_of_isUsable hc ⟨hclosed, ha⟩] at h
              cases h
          | some a =>
              cases hchild : s.cursor? a with
              | some child =>
                  rw [checkUsable_of_activeChild hc hclosed ha hchild] at h
                  exact .of_misuse hd hc (.insideChild hclosed ha hchild) (congrArg Prod.fst h)
              | none =>
                  simp only [checkUsable, bind_apply, cursor_apply hc, andThen_ok, hclosed, ha,
                    cursor_of_missing hchild, Bool.false_eq_true, if_false, andThen_error] at h
                  cases h
                  exact .unopened d

theorem CursorId.fault_of_childBlock {e : Expected} (h : c.childBlock e s = (.error f, t)) :
    s.Fault (.childBlock c e) f := by
  rcases c.checkUsable_cases s with ⟨g, hg⟩ | ⟨cursor, hc, hu⟩
  · rw [childBlock_of_checkUsable hg] at h
    cases h
    exact fault_of_checkUsable (.childBlock c e) hg
  · rw [childBlock_apply hc hu] at h
    split at h
    · next hm =>
        exact .of_misuse (.childBlock c e) hc (.childrenIgnored hu hm) (congrArg Prod.fst h)
    · cases h

theorem CursorId.fault_of_skip {count : Int} (h : c.skip count s = (.error f, t)) :
    s.Fault (.skip c count) f := by
  by_cases hcount : count < 0
  · simp only [skip, if_pos hcount, bind_apply, throw_apply, andThen_error] at h
    cases h
    exact .negativeSkip c hcount
  rcases c.checkUsable_cases s with ⟨g, hg⟩ | ⟨cursor, hc, hu⟩
  · rw [skip_of_checkUsable (Int.not_lt.mp hcount) hg] at h
    cases h
    exact fault_of_checkUsable (.skip c count) hg
  obtain ⟨k, rfl⟩ : ∃ k : Nat, count = k := ⟨count.toNat, by omega⟩
  cases skipping_of_eq hc hu h with
  | ignored hm hf => exact .of_misuse (.skip c k) hc (.childrenIgnored hu hm) hf
  | tooFar hm hlen hf =>
      rcases Config.mismatch_cases hf with ⟨place, hplace, rfl⟩ | hfails
      · exact .farSkip hc hlen hplace
      · exact .foreign (.used (.skip c k) hc hfails)

end

/-! ## Blocks -/

namespace BlockId

variable {s t : Session} {b : BlockId} {block : Block} {f : Failure}

theorem fault_of_takeNode (hb : s.block? b = some block) (h : b.takeNode s = (.error f, t)) :
    s.Fault (.enter b) f := by
  cases hp : block.parentCursor with
  | none =>
      rw [takeNode_of_root hb hp] at h
      cases h
  | some c =>
      rcases c.checkUsable_cases s with ⟨g, hg⟩ | ⟨cursor, hc, hu⟩
      · rw [takeNode_of_checkUsable hb hp hg] at h
        cases h
        exact CursorId.fault_of_checkUsable (.enter hb hp) hg
      · rw [takeNode_of_child hb hp hc hu] at h
        cases hn : cursor.children[cursor.next]? with
        | none =>
            rw [hn] at h
            rcases Config.mismatch_cases (congrArg Prod.fst h) with ⟨place, hplace, rfl⟩ | hfails
            · exact .noChild hb hp hc (List.getElem?_eq_none_iff.mp hn) hplace
            · exact .foreign (.used (.enter hb hp) hc hfails)
        | some n =>
            rw [hn] at h
            cases h

/-- A block that has taken a node and refuses it blames the path above. -/
theorem fault_of_accept {n : Node} {taken : Session} (hb : s.block? b = some block)
    (hc : block.cursor = none) (ht : Takes s b block n taken)
    (h : b.accept n taken = (.error f, t)) : s.Fault (.enter b) f := by
  obtain ⟨htaken, hworld, -⟩ := takes_block hb ht
  cases accepting_of_eq htaken h with
  | unlabelled hl =>
      rw [hworld] at hl
      obtain ⟨p, -, hp⟩ := labelFor_eq_error hl
      exact .foreign (.entered hb (.children hp))
  | untyped htype =>
      rw [hworld] at htype
      exact .foreign (.entered hb (.type (View.typeRefusal_of_askType htype)))
  | wrongType hl htype hf =>
      rw [hworld] at hl htype hf
      rcases Config.mismatch_cases hf with ⟨place, hplace, rfl⟩ | hfails
      · have hfault := Session.Fault.wrongType hb hc ht hl htype hplace
        exact hfault
      · exact .foreign (.entered hb hfails)
  | wrongParent hl _ hp hlink hf =>
      rw [hworld] at hl hlink hf
      rcases Config.mismatch_cases hf with ⟨place, hplace, rfl⟩ | hfails
      · have hfault := Session.Fault.wrongParent hb hc ht hl hp hlink hplace
        exact hfault
      · exact .foreign (.entered hb hfails)
  | childless _ _ _ hask =>
      rw [hworld] at hask
      exact .foreign (.entered hb (.children (View.refusal_of_ask hask)))

theorem fault_of_open (h : b.open s = (.error f, t)) : s.Fault (.enter b) f := by
  cases hb : s.block? b with
  | none =>
      rw [open_of_missing hb] at h
      cases h
      exact .unopened _
  | some block =>
      cases hc : block.cursor with
      | some c =>
          rw [open_of_cursor hb hc] at h
          cases h
          exact .reentered hb hc
      | none =>
          rw [open_apply hb hc] at h
          rcases takeNode_cases hb with ⟨g, hg⟩ | ⟨n, taken, hn, ht⟩
          · rw [hg, andThen_error] at h
            cases h
            exact fault_of_takeNode hb hg
          · rw [hn, andThen_ok] at h
            exact fault_of_accept hb hc ht h

/-- Leaving a block after a body that did not fail is leaving it with any value. -/
theorem exit_none_eq_leave (b : BlockId) : b.exit none = b.leave (.ok () : Except Failure Unit) := by
  funext s
  rw [leave, bind_apply, failure?]
  rcases b.exit none s with ⟨_ | _, _⟩ <;> rfl

theorem fault_of_locate {cursor : Cursor} {failure : Option Failure} {g : Failure}
    (howns : s.Owns b block cursor) (hmeets : block.Meets s.world failure g)
    (h : cursor.config.locate s.world cursor.path g = f) : s.Fault (.exit b failure) f := by
  unfold Config.locate at h
  rcases cursor.config.location_cases s.world cursor.path with ⟨place, hplace⟩ | ⟨e, he, hfails⟩
  · rw [hplace] at h
    exact h ▸ .located howns hmeets hplace
  · rw [he] at h
    exact h ▸ .foreign (.left howns hfails)

theorem fault_of_childCount {cursor : Cursor} (howns : s.Owns b block cursor)
    (h : (if cursor.ignoring || cursor.next == cursor.children.length then .ok ()
      else cursor.config.mismatch s.world cursor.path
        (.childCount cursor.next cursor.children.length)) = (.error f : Except Failure Unit)) :
    s.Fault (.exit b none) f := by
  split at h
  · cases h
  · next hcount =>
      simp only [Bool.or_eq_true, beq_iff_eq, not_or, Bool.not_eq_true] at hcount
      rcases Config.mismatch_cases h with ⟨place, hplace, rfl⟩ | hfails
      · exact .childCount howns hcount.1 hcount.2 hplace
      · exact .foreign (.left howns hfails)

theorem fault_of_exit (hs : s.Sound) {failure : Option Failure}
    (h : b.exit failure s = (.error f, t)) : s.Fault (.exit b failure) f := by
  -- A block that is not open has no cursor at which anything could be located.
  by_cases hopened : ∃ block c, s.block? b = some block ∧ block.cursor = some c
  · obtain ⟨block, c, hb, hc⟩ := hopened
    obtain ⟨cursor, hcursor, -⟩ := hs.owned hb hc
    have howns : s.Owns b block cursor := ⟨c, hb, hc, hcursor⟩
    cases failure with
    | some g =>
        rw [exit_apply hb hc] at h
        cases hg : g.wantsLocation with
        | false =>
            simp only [conclude, hg, Bool.false_eq_true, if_false] at h
            cases h
        | true =>
            have hthrow := locating_of_assertion (α := Unit) (throw_apply g s) hg hb hc hcursor
            simp only [conclude, hg, if_true, hthrow] at h
            exact fault_of_locate howns (.body hg) (Except.error.inj (congrArg Prod.fst h))
    | none =>
        rw [exit_none_eq_leave] at h
        cases hi : block.config.implicit with
        | none =>
            rw [leave_ok hb hc hi hcursor] at h
            exact fault_of_childCount howns (congrArg Prod.fst h)
        | some check =>
            cases hcheck : check.run s.world block.node with
            | error g =>
                have hsettle := (leave_of_implicit hb hc hcursor hi hcheck ()).symm.trans
                  (congrArg Prod.fst h)
                rw [Except.error.injEq, Cursor.settle] at hsettle
                split at hsettle
                · next hg => exact fault_of_locate howns (.check hg hi hcheck) hsettle
                · next hg =>
                    subst hsettle
                    exact .foreign (.checked howns hi hcheck (by simpa using hg))
            | ok _ =>
                exact fault_of_childCount howns
                  ((leave_of_passed hb hc hcursor hi hcheck ()).symm.trans (congrArg Prod.fst h))
  · rw [exit_of_unopened] at h
    · cases h
      exact .unopened _
    · intro block hb
      cases hc : block.cursor with
      | none => rfl
      | some c => exact absurd ⟨block, c, hb, hc⟩ hopened

end BlockId

/-- Using a block fails with what entering it fails with, with what leaving it fails with, or with what
its body failed with. -/
theorem BlockId.error_of_use {b : BlockId} {form : Use} {body : CursorId → Run Value} {s : Session}
    {f : Failure} (h : (b.use form body s).1 = .error f) :
    ((Deed.enter b).run s).1 = .error f ∨ ∃ c t, b.open s = (.ok c, t) ∧
      (((Deed.exit b (failure? (body c t).1)).run (body c t).2).1 = .error f ∨
        (body c t).1 = .error f) := by
  rcases hopen : b.open s with ⟨g | c, t⟩
  · rw [Script.use_of_open_error hopen] at h
    cases h
    rw [Deed.run, bind_apply, hopen]
    exact .inl rfl
  · rw [Script.use_apply hopen rfl, leave, bind_apply] at h
    refine .inr ⟨c, t, rfl, ?_⟩
    rw [Deed.run, bind_apply]
    rcases hexit : b.exit (failure? (body c t).1) (body c t).2 with ⟨g | _, u⟩
    · rw [hexit] at h
      cases h
      exact .inl rfl
    · rw [hexit] at h
      exact .inr h

/-! ## All deeds -/

/-- The faults are all there are. -/
theorem Deed.fault {d : Deed} {s : Session} {f : Failure} (hs : s.Sound)
    (h : (d.run s).1 = .error f) : s.Fault d f := by
  -- One case for each deed, each with the lemma for its engine step.
  cases d with
  | look => cases h
  | alter change => cases h
  | matching c e root =>
      by_cases hroot : root = .absent
      · subst hroot
        cases h
        exact .absentRoot c e
      · rw [Deed.run, bind_apply, Config.matching, bind_apply, Config.checkRoot_of_ne hroot] at h
        cases h
  | blockAt c e parentPath n => cases h
  | childBlock c e =>
      rw [Deed.run, bind_apply] at h
      rcases hx : c.childBlock e s with ⟨g | _, t⟩ <;> rw [hx] at h
      · cases h
        exact CursorId.fault_of_childBlock hx
      · cases h
  | skip c count =>
      rw [Deed.run, bind_apply] at h
      rcases hx : c.skip count s with ⟨g | _, t⟩ <;> rw [hx] at h
      · cases h
        exact CursorId.fault_of_skip hx
      · cases h
  | enter b =>
      rw [Deed.run, bind_apply] at h
      rcases hx : b.open s with ⟨g | _, t⟩ <;> rw [hx] at h
      · cases h
        exact BlockId.fault_of_open hx
      · cases h
  | exit b failure =>
      rw [Deed.run, bind_apply] at h
      rcases hx : b.exit failure s with ⟨g | _, t⟩ <;> rw [hx] at h
      · cases h
        exact BlockId.fault_of_exit hs hx
      · cases h

/-! ## The small world -/

namespace Sample

theorem properties_info (t : NodeType) : (hierarchy.info t).properties = [] := by
  obtain ⟨number⟩ := t
  match number with
  | 0 | 1 | 2 | 3 | 4 => rfl
  | k + 5 => rfl

/-- In the small world every node tells its children and its type, and there are no dumps to fail. -/
theorem not_fails (f : Failure) : ¬ config.Fails world f := by
  intro h
  cases h with
  | children h => cases h
  | @type n t _ h =>
      have hnone : world.declared? n World.classAttribute = none := by
        have hproperty : hierarchy.property? (world.typeOf n) World.classAttribute = none := by
          rw [Hierarchy.property?, List.findSome?_eq_none_iff]
          intro u _
          rw [properties_info, List.lookup_nil]
        rw [World.declared?, show world.hierarchy = hierarchy from rfl, hproperty]
        rfl
      have hrefusal := World.claimRefusal_of_declared_none hnone t
      rw [show (config.view world).typeRefusal n t = world.claimRefusal n t from rfl, hrefusal] at h
      cases h
  | dump h _ => cases h

end Sample

end TreeShape
