import TreeShape.Proofs.Activity.Nesting
import TreeShape.Proofs.Shape.Pattern
import TreeShape.Proofs.Ways

/-!
# Patterns as scripts

A pattern can be written as a script, with any of the ways to match for its nodes.  Matching a tree with
the pattern runs one of these scripts, `Pattern.run_script`; the others do the same but for the values
that they come to, and those that enclose bodies in blocks only use blocks.
-/

namespace TreeShape

open Run

/-- Matches the children of a cursor's node with the items, in one of the ways. -/
def Items.script (w : Way) : Items → CursorId → Script
  | done, _ => .give .nothing
  | skip count items, c => .act (.skip c count) fun
    | .ok _ => items.script w c
    | .error f => .fail f
  | child e inside items, c => .call (.child c e) w (fun d => inside.script w d) fun
    | .ok _ => items.script w c
    | .error f => .fail f

/-- Matches a tree with the pattern, in one of the ways. -/
def Pattern.script (p : Pattern) (w : Way) (c : Config) (root : Node) : Script :=
  .call (.root c p.expected root) w (fun d => p.items.script w d) fun
    | .ok v => .give v
    | .error f => .fail f

/-- The ways make no difference but for the values. -/
theorem Items.alike_script (items : Items) (w w' : Way) (c : CursorId) :
    Script.Alike (fun _ _ => True) (items.script w c) (items.script w' c) := by
  induction items generalizing c with
  | done => exact .give trivial
  | skip count items ih =>
      refine .act ?_
      rintro (f | _)
      · exact .fail f
      · exact ih c
  | child e inside items ihinside ih =>
      refine .call (Q := fun _ _ => True) ihinside ?_
      rintro _ _ (_ | f)
      · exact ih c
      · exact .fail f

theorem Pattern.alike_script (p : Pattern) (w w' : Way) (c : Config) (root : Node) :
    Script.Alike (fun _ _ => True) (p.script w c root) (p.script w' c root) := by
  refine .call (Q := fun _ _ => True) (fun d => p.items.alike_script w w' d) ?_
  rintro _ _ (_ | f)
  · exact .give trivial
  · exact .fail f

/-! ## Nesting -/

theorem Items.isBracketed_script (items : Items) (c : CursorId) :
    (items.script .enclosing c).IsBracketed := by
  induction items generalizing c with
  | done => exact trivial
  | skip count items ih =>
      refine ⟨trivial, ?_⟩
      rintro (f | _)
      · exact trivial
      · exact ih c
  | child e inside items ihinside ih =>
      refine ⟨trivial, ?_⟩
      rintro (f | _ | _ | b | _)
      · exact trivial
      · exact trivial
      · exact trivial
      · refine ⟨ihinside, ?_⟩
        rintro (f | _)
        · exact trivial
        · exact ih c
      · exact trivial

theorem Pattern.isBracketed_script (p : Pattern) (c : Config) (root : Node) :
    (p.script .enclosing c root).IsBracketed := by
  refine ⟨trivial, ?_⟩
  rintro (f | _ | _ | b | _)
  · exact trivial
  · exact trivial
  · exact trivial
  · refine ⟨p.items.isBracketed_script, ?_⟩
    rintro (f | _) <;> exact trivial
  · exact trivial

/-! ## Matching -/

/-- Where failures are not caught, what comes next comes after a value. -/
theorem Script.run_attempt {α : Type} (x : Run α) {next : Except Failure α → Script}
    (h : ∀ f, next (.error f) = .fail f) :
    (do (next (← attempt x)).run) = (do (next (.ok (← x))).run) := by
  funext s
  rw [bind_apply, attempt_apply, andThen_ok, bind_apply]
  rcases x s with ⟨f | a, t⟩
  · rw [h]
    rfl
  · rfl

theorem Items.run_script (items : Items) (c : CursorId) :
    (items.script .returning c).run = (do items.run c; return .nothing) := by
  induction items generalizing c with
  | done => rfl
  | skip count items ih =>
      rw [script, Script.run, Script.run_attempt _ fun _ => rfl]
      simp only [Deed.run, Items.run, bind_assoc, pure_bind, ih]
  | child e inside items ihinside ih =>
      rw [script, Script.run_call, Script.run_attempt _ fun _ => rfl]
      simp only [Target.visit, Items.run, CursorId.child, ihinside, ih, discard_bind, bind_assoc,
        pure_bind]

/-- Patterns are matched by one of these scripts. -/
theorem Pattern.run_script (p : Pattern) (c : Config) (root : Node) :
    (p.script .returning c root).run = (do return .ofNode (← p.matchTree c root)) := by
  rw [script, Script.run_call, Script.run_attempt _ fun _ => rfl]
  simp only [Target.visit, matchTree, Config.matchTree, Items.run_script, discard_bind, bind_assoc,
    pure_bind]
  rfl

end TreeShape
