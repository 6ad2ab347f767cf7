import TreeShape.Matching.Start
import TreeShape.Proofs.Matching.Changes
import TreeShape.Proofs.Replay.Source

/-!
# Running scripts that were read

Names are looked up when they are used, and stand for what they were bound to last.  A block binds the
name behind `as` to its cursor, and the name stays bound when the block is over, so blocks next to each
other can use one name again.

A suite is run for any statements that can be, `Executable`: a statement may use the names that are
bound so far, and says which are bound behind it.  Running a suite of calls changes a session only in
the ways in which matching does, `Suite.keeps_exec`, and binds the names of its own blocks and no
others, `Suite.eq_of_exec`; so what a name above a block stands for is known behind it.
-/

namespace TreeShape.Replay

open Run

/-- What names stand for. -/
inductive Thing where
  | matcher (c : Config)
  | node (n : Node)
  | type (t : NodeType)
  | cursor (c : CursorId)

/-- The names that are bound. -/
abbrev Scope := String → Option Thing

namespace Scope

/-- Binds a name, whatever it stood for before. -/
def bind (σ : Scope) (name : String) (thing : Thing) : Scope :=
  fun other => if other = name then some thing else σ other

theorem bind_self (σ : Scope) (name : String) (thing : Thing) :
    σ.bind name thing name = some thing := if_pos rfl

theorem bind_of_ne (σ : Scope) {name other : String} (thing : Thing) (h : other ≠ name) :
    σ.bind name thing other = σ other := if_neg h

def lookup (σ : Scope) (name : String) : Run Thing :=
  match σ name with
  | some thing => return thing
  | none => throw (.unboundName name)

theorem lookup_of_eq {σ : Scope} {name : String} {thing : Thing} (h : σ name = some thing) :
    σ.lookup name = pure thing := by
  rw [lookup, h]

/-- The names that a script starts with: those of the types, the function that matches, and the root. -/
def start (types : String → Option NodeType) (c : Config) (root : Node) : Scope :=
  Scope.bind (Scope.bind (fun name => (types name).map .type) "node" (.node root)) "match_node"
    (.matcher c)

section

variable (types : String → Option NodeType) (c : Config) (root : Node)

theorem start_function : start types c root "match_node" = some (.matcher c) := bind_self ..

theorem start_node : start types c root "node" = some (.node root) := by
  rw [start, bind_of_ne _ _ (by decide), bind_self]

/-- Other names stand for types to begin with. -/
theorem start_of_ne {name : String} (hnode : name ≠ "node") (hfunction : name ≠ "match_node") :
    start types c root name = (types name).map .type := by
  rw [start, bind_of_ne _ _ hfunction, bind_of_ne _ _ hnode]

end

end Scope

/-- What a call gives. -/
inductive Made where
  | node (n : Node)
  | block (b : BlockId)

/-- Whether a call says that children are ignored, if it says nothing else. -/
def Call.ignoring? (c : Call) : Option Bool :=
  match c.options with
  | [] => some false
  | [(key, value)] => if key = "ignore_children" then some value else none
  | _ => none

/-- Makes a call. -/
def Call.make (σ : Scope) (c : Call) : Run Made := do
  match c.owner?, c.arguments with
  | none, [root, type] =>
    let function ← σ.lookup c.function
    let root ← σ.lookup root
    let type ← σ.lookup type
    match function, root, type, c.ignoring? with
    | .matcher config, .node n, .type t, some ignoring => return .block (← config.matching ⟨t, ignoring⟩ n)
    | _, _, _, _ => throw (.notCallable c.function)
  | some owner, [type] =>
    let owner ← σ.lookup owner
    let type ← σ.lookup type
    match owner, type, c.ignoring? with
    | .cursor cursor, .type t, some ignoring =>
      if c.function = "child" then return .node (← cursor.child ⟨t, ignoring⟩ fun _ => pure ())
      else if c.function = "child_block" then return .block (← cursor.childBlock ⟨t, ignoring⟩)
      else throw (.notCallable c.function)
    | _, _, _ => throw (.notCallable c.function)
  | _, _ => throw (.notCallable c.function)

/-- Statements that can be run: each hands on what is bound. -/
class Executable (S : Type) where
  exec : S → Scope → Run Scope

/-- A call by itself. -/
instance : Executable Call where
  exec c σ := do
    discard (c.make σ)
    return σ

namespace Suite

section

variable {S : Type} [Executable S]

/-- Runs the statements one after the other.  What is bound in the end is handed on. -/
def exec : Suite S → Scope → Run Scope
  | done, σ => return σ
  | pass rest, σ => rest.exec σ
  | step s rest, σ => do rest.exec (← Executable.exec s σ)
  | block c name inside rest, σ => do
    match ← c.make σ with
    | .node _ => throw (.notCallable c.function)
    | .block b =>
      let σ ← b.within fun cursor => inside.exec (σ.bind name (.cursor cursor))
      rest.exec σ

/-- Runs a script on a root. -/
def replay (p : Suite S) (types : String → Option NodeType) (c : Config) (root : Node) : Run Unit :=
  discard (p.exec (.start types c root))

/-- A script that is run on a root succeeds if its statements do. -/
theorem replay_eq_ok_iff {p : Suite S} {types : String → Option NodeType} {c : Config} {root : Node}
    {s : Session} : (p.replay types c root s).1 = .ok () ↔
      ∃ τ, (p.exec (.start types c root) s).1 = .ok τ := by
  have hreplay : p.replay types c root = (do
      let _ ← p.exec (.start types c root)
      pure () : Run Unit) := rfl
  rw [hreplay, bind_apply]
  rcases p.exec (.start types c root) s with ⟨_ | τ, t⟩
  · exact iff_of_false (by simp) (by simp)
  · exact iff_of_true rfl ⟨τ, rfl⟩

theorem exec_orPass (p : Suite S) (σ : Scope) : p.orPass.exec σ = p.exec σ := by
  cases p <;> rfl

end

/-- The names that the blocks of a script bind. -/
def binders : Suite Call → List String
  | done => []
  | pass rest => rest.binders
  | step _ rest => rest.binders
  | block _ name inside rest => name :: (inside.binders ++ rest.binders)

end Suite

/-! ## What running leaves alone -/

theorem Scope.keeps_lookup (σ : Scope) (name : String) : Keeps Session.Changes (σ.lookup name) := by
  unfold Scope.lookup
  split
  · exact keeps_pure _
  · exact keeps_throw _

theorem Call.keeps_make (c : Call) (σ : Scope) : Keeps Session.Changes (c.make σ) := by
  unfold Call.make
  split
  · refine (σ.keeps_lookup _).bind fun _ => (σ.keeps_lookup _).bind fun _ =>
      (σ.keeps_lookup _).bind fun _ => ?_
    split
    · exact (Config.keeps_matching ..).bind fun _ => keeps_pure _
    · exact keeps_throw _
  · refine (σ.keeps_lookup _).bind fun _ => (σ.keeps_lookup _).bind fun _ => ?_
    split
    · split
      · exact (CursorId.keeps_child _ _ fun _ => keeps_pure _).bind fun _ => keeps_pure _
      · split
        · exact (CursorId.keeps_childBlock ..).bind fun _ => keeps_pure _
        · exact keeps_throw _
    · exact keeps_throw _
  · exact keeps_throw _

theorem Suite.keeps_exec (p : Suite Call) (σ : Scope) : Keeps Session.Changes (p.exec σ) := by
  induction p generalizing σ with
  | done => exact keeps_pure σ
  | pass rest ih => exact ih σ
  | step c rest ih => exact (((c.keeps_make σ).bind fun _ => keeps_pure _).bind fun _ => keeps_pure _).bind ih
  | block c name inside rest ihinside ih =>
      refine (c.keeps_make σ).bind fun made => ?_
      cases made with
      | node n => exact keeps_throw _
      | block b => exact (b.keeps_within fun cursor => ihinside _).bind ih

/-- The statements of a suite bind no other names than those of its blocks. -/
theorem Suite.eq_of_exec {p : Suite Call} {σ τ : Scope} {s : Session} (h : (p.exec σ s).1 = .ok τ)
    {name : String} (hname : name ∉ p.binders) : τ name = σ name := by
  induction p generalizing σ τ s with
  | done =>
      cases h
      rfl
  | pass rest ih => exact ih h hname
  | step c rest ih =>
      have hexec : (step c rest).exec σ = (do
          discard (c.make σ)
          rest.exec σ) := by
        simp only [exec, Executable.exec, bind_assoc, pure_bind]
      rw [hexec, bind_apply] at h
      rcases hmake : discard (c.make σ) s with ⟨_ | _, t⟩ <;> rw [hmake] at h
      · cases h
      · exact ih h hname
  | block c bound inside rest ihinside ih =>
      rw [binders, List.mem_cons, List.mem_append, not_or, not_or] at hname
      obtain ⟨hne, hinside, hrest⟩ := hname
      rw [exec, bind_apply] at h
      rcases hmake : c.make σ s with ⟨_ | made, t⟩ <;> rw [hmake] at h
      · cases h
      · cases made with
        | node n => cases h
        | block b =>
            simp only [andThen_ok, bind_apply] at h
            rcases hwithin : b.within (fun cursor => inside.exec (σ.bind bound (.cursor cursor))) t
              with ⟨_ | υ, u⟩ <;> rw [hwithin] at h
            · cases h
            · obtain ⟨cursor, v, -, hbody⟩ := b.exists_of_within_ok (by rw [hwithin])
              -- The name is bound neither after the block nor in it, nor by its header.
              calc τ name = υ name := ih h hrest
                _ = σ.bind bound (.cursor cursor) name := ihinside hbody hinside
                _ = σ name := σ.bind_of_ne _ hne

end TreeShape.Replay
