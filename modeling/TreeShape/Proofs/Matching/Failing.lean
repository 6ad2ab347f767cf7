import TreeShape.Proofs.Matching.Soundness

/-!
# Whose failures they are

Matching asks adapters and printers, and both may fail, with anything.  What matching itself fails with
never wants a location: it is a misuse, or a mismatch that has its place.  So if an assertion without a
location comes of a step that runs none of the caller's own code, it is one that the adapter or the
printer failed with, `Config.Fails`.
-/

namespace TreeShape

open Run

/-- The adapter or the printer of a configuration fails with this. -/
inductive Config.Fails (c : Config) (w : World) : Failure → Prop
  | children {n : Node} {f : Failure} : (c.view w).refusal n = some f → Fails c w f
  | type {n : Node} {t : NodeType} {f : Failure} : (c.view w).typeRefusal n t = some f → Fails c w f
  | dump {n : Node} {printer : Printer} {f : Failure} : c.printer = some printer →
      printer.render w n c.limit = .error f → Fails c w f

theorem View.refusal_of_ask {v : View} {n : Node} {f : Failure} (h : v.ask n = .error f) :
    v.refusal n = some f := by
  unfold View.ask at h
  cases hr : v.refusal n with
  | none => simp [hr] at h
  | some g => simpa [hr] using h

theorem View.typeRefusal_of_askType {v : View} {n : Node} {t : NodeType} {f : Failure}
    (h : v.askType n t = .error f) : v.typeRefusal n t = some f := by
  unfold View.askType at h
  cases hr : v.typeRefusal n t with
  | none => simp [hr] at h
  | some g => simpa [hr] using h

theorem labelFor_eq_error {v : View} {path : List Node} {n : Node} {f : Failure}
    (h : labelFor v path n = .error f) : ∃ p, path.getLast? = some p ∧ v.refusal p = some f := by
  unfold labelFor at h
  cases hp : path.getLast? with
  | none =>
      rw [hp] at h
      cases h
  | some p =>
      rw [hp] at h
      refine ⟨p, rfl, View.refusal_of_ask ?_⟩
      cases hask : v.ask p with
      | error g => simpa [hask, Except.map] using h
      | ok children => simp [hask, Except.map] at h

theorem labelFor_eq_ok {v : View} {path : List Node} {n : Node} {label : Label}
    (h : labelFor v path n = .ok label) :
    path = [] ∧ label = .root ∨ ∃ p children, path.getLast? = some p ∧ v.ask p = .ok children ∧
      label = .child (View.position? children n) := by
  unfold labelFor at h
  cases hp : path.getLast? with
  | none =>
      rw [hp] at h
      exact .inl ⟨List.getLast?_eq_none_iff.mp hp, (Except.ok.inj h).symm⟩
  | some p =>
      rw [hp] at h
      refine .inr ⟨p, ?_⟩
      cases hask : v.ask p with
      | error f => simp [hask, Except.map] at h
      | ok children => exact ⟨children, rfl, rfl, by simpa [hask, Except.map, eq_comm] using h⟩

/-- Where the parent tells its children, the place among the siblings can be told. -/
theorem labelFor_ne_error {v : View} {path : List Node} {n : Node} {f : Failure}
    (h : ∀ p, path.getLast? = some p → ∃ nodes, v.ask p = .ok nodes) :
    labelFor v path n ≠ .error f := by
  intro hl
  obtain ⟨p, hp, hrefusal⟩ := labelFor_eq_error hl
  obtain ⟨nodes, hnodes⟩ := h p hp
  rw [View.ask, hrefusal] at hnodes
  cases hnodes

/-! ## Failures at a place -/

section

variable {α : Type} {c : Config} {w : World} {path : List Node} {f g : Failure}

theorem Location.dumpOf_eq_error (h : Location.of c w path = .error g) :
    Location.dumpOf c w path = .error g := by
  unfold Location.of at h
  cases hdump : Location.dumpOf c w path with
  | error f => simpa [hdump, Except.map] using h
  | ok dump => simp [hdump, Except.map] at h

theorem Config.fails_of_dumpOf (h : Location.dumpOf c w path = .error g) : c.Fails w g := by
  unfold Location.dumpOf at h
  split at h
  · next printer n hprinter _ =>
      refine .dump (n := n) hprinter ?_
      cases hdump : printer.render w n c.limit with
      | error f => simpa [hdump, Except.map] using h
      | ok dump => simp [hdump, Except.map] at h
  · cases h

theorem Config.dumpOf_of_mismatch {reason : Mismatch}
    (h : (c.mismatch w path reason : Except Failure α) = .error g) (hg : g.wantsLocation = true) :
    Location.dumpOf c w path = .error g := by
  unfold Config.mismatch at h
  cases hplace : Location.of c w path with
  | error f =>
      rw [hplace] at h
      cases h
      exact Location.dumpOf_eq_error hplace
  | ok place =>
      rw [hplace] at h
      cases h
      simp [Failure.wantsLocation, Failure.isLocated, Failure.path] at hg

theorem Config.dumpOf_of_misuse {reason : Misuse}
    (h : (c.misuse w path reason : Except Failure α) = .error g) (hg : g.wantsLocation = true) :
    Location.dumpOf c w path = .error g := by
  unfold Config.misuse at h
  cases hplace : Location.of c w path with
  | error f =>
      rw [hplace] at h
      cases h
      exact Location.dumpOf_eq_error hplace
  | ok place =>
      rw [hplace] at h
      cases h
      simp [Failure.wantsLocation, Failure.kind, FailureKind.isAssertion] at hg

/-- What has left a block wants a location only if it could not be given one. -/
theorem Cursor.dumpOf_of_settle {cursor : Cursor} (h : cursor.settle w f = g)
    (hg : g.wantsLocation = true) : Location.dumpOf cursor.config w cursor.path = .error g := by
  subst h
  unfold Cursor.settle at *
  split at hg
  · next hf =>
      rw [if_pos hf]
      unfold Config.locate at *
      cases hplace : Location.of cursor.config w cursor.path with
      | error g => exact Location.dumpOf_eq_error hplace
      | ok place =>
          rw [hplace] at hg
          simp at hg
  · next hf => exact absurd hg hf

end

/-! ## Opening and leaving -/

theorem CursorId.fails_of_checkUsable {c : CursorId} {s t : Session} {g : Failure}
    (h : c.checkUsable s = (.error g, t)) (hg : g.wantsLocation = true) {cursor : Cursor}
    (hc : s.cursor? c = some cursor) : cursor.config.Fails s.world g := by
  have hmisuse : ∀ reason, c.checkUsable s = (cursor.config.misuse s.world cursor.path reason, s) →
      cursor.config.Fails s.world g := by
    intro reason hcheck
    rw [hcheck] at h
    exact Config.fails_of_dumpOf (Config.dumpOf_of_misuse (congrArg Prod.fst h) hg)
  cases hclosed : cursor.closed with
  | true => exact hmisuse _ (checkUsable_of_closed hc hclosed)
  | false =>
      cases ha : cursor.activeChild with
      | none =>
          rw [checkUsable_of_isUsable hc ⟨hclosed, ha⟩] at h
          cases h
      | some a =>
          cases hchild : s.cursor? a with
          | some child => exact hmisuse _ (checkUsable_of_activeChild hc hclosed ha hchild)
          | none =>
              simp only [checkUsable, bind_apply, cursor_apply hc, andThen_ok, hclosed, ha,
                cursor_of_missing hchild, Bool.false_eq_true, if_false, andThen_error] at h
              cases h
              simp [Failure.wantsLocation, Failure.kind, FailureKind.isAssertion] at hg

namespace BlockId

variable {s t : Session} {b : BlockId} {block : Block} {g : Failure}

theorem fails_of_takeNode (hs : s.Sound) (hb : s.block? b = some block)
    (h : b.takeNode s = (.error g, t)) (hg : g.wantsLocation = true) :
    block.config.Fails s.world g := by
  cases hp : block.parentCursor with
  | none =>
      rw [takeNode_of_root hb hp] at h
      cases h
  | some c =>
      obtain ⟨cursor, hcursor, hhangs⟩ := hs.parent hb hp
      rw [hhangs.config]
      rcases c.checkUsable_cases s with ⟨f, hf⟩ | ⟨cursor', hcursor', hu⟩
      · rw [takeNode_of_checkUsable hb hp hf] at h
        cases h
        exact CursorId.fails_of_checkUsable hf hg hcursor
      · rw [hcursor] at hcursor'
        cases hcursor'
        rw [takeNode_of_child hb hp hcursor hu] at h
        cases hn : cursor.children[cursor.next]? with
        | none =>
            rw [hn] at h
            exact Config.fails_of_dumpOf (Config.dumpOf_of_mismatch (congrArg Prod.fst h) hg)
        | some n =>
            rw [hn] at h
            cases h

theorem fails_of_accept {n : Node} (hb : s.block? b = some block)
    (h : b.accept n s = (.error g, t)) (hg : g.wantsLocation = true) :
    block.config.Fails s.world g := by
  cases accepting_of_eq hb h with
  | unlabelled hl =>
      obtain ⟨p, -, hp⟩ := labelFor_eq_error hl
      exact .children hp
  | untyped htype => exact .type (View.typeRefusal_of_askType htype)
  | wrongType _ _ hf => exact Config.fails_of_dumpOf (Config.dumpOf_of_mismatch hf hg)
  | wrongParent _ _ _ _ hf => exact Config.fails_of_dumpOf (Config.dumpOf_of_mismatch hf hg)
  | childless _ _ _ hask => exact .children (View.refusal_of_ask hask)

/-- A block that does not open fails with an assertion without a location only if the adapter or the
printer does. -/
theorem fails_of_open (hs : s.Sound) (h : b.open s = (.error g, t)) (hg : g.wantsLocation = true) :
    ∃ block, s.block? b = some block ∧ block.config.Fails s.world g := by
  -- Failures that are no assertions are none of those in question.
  have hown : ∀ {f : Failure}, f.wantsLocation = false → ¬ ∃ u, (Except.error f, u) =
      ((.error g, t) : Except Failure CursorId × Session) := by
    rintro f hf ⟨u, heq⟩
    cases heq
    rw [hf] at hg
    cases hg
  cases hb : s.block? b with
  | none => exact absurd ⟨s, (open_of_missing hb).symm.trans h⟩ (hown rfl)
  | some block =>
      refine ⟨block, rfl, ?_⟩
      cases hc : block.cursor with
      | some c => exact absurd ⟨s, (open_of_cursor hb hc).symm.trans h⟩ (hown rfl)
      | none =>
          rw [open_apply hb hc] at h
          rcases takeNode_cases hb with ⟨f, hf⟩ | ⟨n, taken, hn, ht⟩
          · rw [hf, andThen_error] at h
            cases h
            exact fails_of_takeNode hs hb hf hg
          · rw [hn, andThen_ok] at h
            obtain ⟨htaken, hworld, -⟩ := takes_block hb ht
            have hfails := fails_of_accept htaken h hg
            rw [hworld] at hfails
            exact hfails

/-- So does leaving a block, whatever its body came to. -/
theorem dumpOf_of_leave {α : Type} {c : CursorId} {cursor : Cursor} {outcome : Except Failure α}
    (hb : s.block? b = some block) (hc : block.cursor = some c) (hcursor : s.cursor? c = some cursor)
    (h : (b.leave outcome s).1 = .error g) (hg : g.wantsLocation = true) :
    Location.dumpOf cursor.config s.world cursor.path = .error g := by
  have hsettle : ∀ f, (Except.error (cursor.settle s.world f) : Except Failure α) = .error g →
      Location.dumpOf cursor.config s.world cursor.path = .error g := by
    intro f hf
    exact Cursor.dumpOf_of_settle (Except.error.inj hf) hg
  have hcount : ∀ a : α, (if cursor.ignoring || cursor.next == cursor.children.length then .ok a
      else cursor.config.mismatch s.world cursor.path
        (.childCount cursor.next cursor.children.length)) = .error g →
      Location.dumpOf cursor.config s.world cursor.path = .error g := by
    intro a hf
    split at hf
    · cases hf
    · exact Config.dumpOf_of_mismatch hf hg
  cases outcome with
  | error f =>
      rw [leave_error hb hc hcursor] at h
      exact hsettle f h
  | ok a =>
      cases hi : block.config.implicit with
      | none =>
          rw [leave_ok hb hc hi hcursor] at h
          exact hcount a h
      | some check =>
          cases hcheck : check.run s.world block.node with
          | error f =>
              rw [leave_of_implicit hb hc hcursor hi hcheck] at h
              exact hsettle f h
          | ok _ =>
              rw [leave_of_passed hb hc hcursor hi hcheck] at h
              exact hcount a h

end BlockId

end TreeShape
