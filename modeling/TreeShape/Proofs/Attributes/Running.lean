import TreeShape.Proofs.Attributes.Dumped
import TreeShape.Proofs.Replay.Running

/-!
# Running scripts with assertions

A path is evaluated from its name on, one attribute behind the other.  Of a cursor its node can be read,
of a node whatever it has, and of an enumeration its members.  An assertion evaluates both sides and
fails if they are not identical, or not equal.  It changes nothing, so what matters of it is when it
passes: `Claim.tests_told` and `Claim.tests_holder` say so for the two kinds of assertions that dumps
make.

Of numbers and texts it is never told that two of them are one.  Dumps compare by identity only what
there is one of, and then identical means the same, `isSame_iff`.
-/

namespace TreeShape

/-- Whether two values are one thing.  Nothing, the truth values, types and nodes are one thing each; that
two values of other kinds are one is never told. -/
def Value.isSame : Value → Value → Bool
  | .nothing, .nothing => true
  | .bool a, .bool b => a == b
  | .type s, .type t => s == t
  | .node m, .node n => m == n
  | _, _ => false

namespace Audit

open Replay Run

/-! ## Expressions -/

/-- What part of a path stands for. -/
inductive Object where
  | cursor (c : CursorId)
  | value (v : Value)

namespace Object

def of : Thing → Object
  | .matcher _ => value (.formless .object)
  | .node n => value (.ofNode n)
  | .type t => value (.type t)
  | .cursor c => cursor c

/-- A cursor is an object like others without literals. -/
def toValue : Object → Value
  | cursor _ => .formless .object
  | value v => v

/-- What is read of an object under a name. -/
def get (o : Object) (name : String) : Run Object := do
  match o with
  | cursor c =>
    if name = "node" then return value (.ofNode (← Run.cursor c).node)
    else throw (.noAttribute "NodeCursor" name)
  | value v =>
    let w ← world
    match v.asNode?, v with
    | some n, _ => return value (← resume (w.read n name))
    | none, .type t => match w.hierarchy.memberOf? t name with
      | some member => return value member
      | none => throw (.noTypeAttribute (w.hierarchy.mention t) name)
    | none, v => throw (.noAttribute (w.mentionOfValue v) name)

end Object

/-- The value of a path. -/
def Path.eval (p : Path) (σ : Scope) : Run Value := do
  let start ← σ.lookup p.root
  let o ← p.attributes.foldlM Object.get (Object.of start)
  match p.index with
  | none => return o.toValue
  | some k =>
    let w ← world
    resume (w.item o.toValue k)

/-- The name of the function that makes numbers, as long as no script binds it. -/
def floatName : String := "float"

def Operand.eval (σ : Scope) : Operand → Run Value
  | .literal v => return v
  | .infinite negative => match σ floatName with
    | none => return .float (.infinite negative)
    | some _ => throw (.notCallable floatName)
  | .path p => p.eval σ

/-- Makes an assertion. -/
def Claim.check (c : Claim) (σ : Scope) : Run Unit := do
  let actual ← c.target.eval σ
  let expected ← c.operand.eval σ
  let w ← world
  let holds := if c.identical then actual.isSame expected else actual.agrees w expected
  if !holds then throw (.raised .assertion "" none none)

/-! ## Statements -/

/-- Runs a statement and hands on what is bound. -/
def Statement.exec (σ : Scope) : Statement → Run Scope
  | .call c => Executable.exec c σ
  | .bind name c => do
    match ← c.make σ with
    | .node n => return σ.bind name (.node n)
    | .block _ => throw (.notCallable c.function)
  | .claim c => do
    c.check σ
    return σ

instance : Executable Statement where
  exec s σ := s.exec σ

/-! ## The values of paths -/

section

variable {σ : Scope} {name : String} {s : Session} {c : CursorId} {cursor : Cursor}

theorem get_node (hc : s.cursor? c = some cursor) :
    (Object.cursor c).get "node" s = (.ok (.value (.ofNode cursor.node)), s) := by
  simp only [Object.get, if_true, bind_apply, cursor_apply hc, andThen_ok]
  rfl

theorem get_ofNode (n : Node) (attr : String) : (Object.value (.ofNode n)).get attr s =
    ((s.world.read n attr).map .value, s) := by
  simp only [Object.get, bind_apply, world_apply, andThen_ok, Value.asNode?_ofNode]
  cases s.world.read n attr <;> rfl

theorem Path.eval_of_eq {p : Path} {thing : Thing} (hσ : σ p.root = some thing) : p.eval σ = (do
    let o ← p.attributes.foldlM Object.get (Object.of thing)
    match p.index with
    | none => return o.toValue
    | some k =>
      let w ← world
      resume (w.item o.toValue k)) := by
  rw [Path.eval, Scope.lookup_of_eq hσ, pure_bind]

/-- A node that a name stands for. -/
theorem Path.eval_bound {n : Node} (hσ : σ name = some (.node n)) :
    (⟨name, [], none⟩ : Path).eval σ s = (.ok (.ofNode n), s) := by
  rw [Path.eval_of_eq hσ]
  rfl

/-- The node of a cursor. -/
theorem Path.eval_node (hσ : σ name = some (.cursor c)) (hc : s.cursor? c = some cursor) :
    (⟨name, ["node"], none⟩ : Path).eval σ s = (.ok (.ofNode cursor.node), s) := by
  rw [Path.eval_of_eq hσ]
  simp only [Object.of, List.foldlM_cons, List.foldlM_nil, bind_apply, get_node hc, andThen_ok]
  rfl

/-- What the node of a cursor holds. -/
theorem Path.eval_access (hσ : σ name = some (.cursor c)) (hc : s.cursor? c = some cursor)
    (access : Access) : (⟨name, ["node", access.name], access.index⟩ : Path).eval σ s =
      (s.world.readAccess cursor.node access, s) := by
  rw [Path.eval_of_eq hσ]
  simp only [Object.of, List.foldlM_cons, List.foldlM_nil, bind_apply, get_node hc, andThen_ok,
    get_ofNode, World.readAccess]
  cases s.world.read cursor.node access.name with
  | error f => rfl
  | ok v => cases access.index <;> rfl

/-- A type that a name stands for. -/
theorem Path.eval_type {t : NodeType} (hσ : σ name = some (.type t)) :
    (⟨name, [], none⟩ : Path).eval σ s = (.ok (.type t), s) := by
  rw [Path.eval_of_eq hσ]
  rfl

/-- A member of an enumeration that a name stands for. -/
theorem Path.eval_member {t : NodeType} {label : String} {v : Value} (hσ : σ name = some (.type t))
    (hv : s.world.hierarchy.memberOf? t label = some v) :
    (⟨name, [label], none⟩ : Path).eval σ s = (.ok v, s) := by
  rw [Path.eval_of_eq hσ]
  simp only [Object.of, Object.get, List.foldlM_cons, List.foldlM_nil, bind_apply, world_apply,
    andThen_ok, Value.asNode?, hv]
  rfl

end

/-- An operand is what it means, where names mean what the dump took them to mean. -/
theorem Operand.Means.eval {o : Operand} {v : Value} {s : Session}
    (h : o.Means s.world.hierarchy v) {σ : Scope}
    (hfloat : ∀ negative, v = .float (.infinite negative) → σ floatName = none)
    (hσ : ∀ t, v.mentioned? = some t → σ (s.world.hierarchy.qualifiedName t) = some (.type t)) :
    ∃ v', o.eval σ s = (.ok v', s) ∧ v'.Echoes v := by
  cases h with
  | literal h => exact ⟨_, rfl, h⟩
  | infinite negative =>
      refine ⟨_, ?_, .same _⟩
      rw [Operand.eval, hfloat negative rfl]
      rfl
  | member h => exact ⟨_, Path.eval_member (hσ _ rfl) h, .same _⟩
  | type t => exact ⟨_, Path.eval_type (hσ _ rfl), .same _⟩

/-! ## When assertions pass -/

/-- A step that changes nothing, and succeeds just if something holds. -/
inductive Tests (holds : Prop) (x : Run Unit) (s : Session) : Prop
  | passed : holds → x s = (.ok (), s) → Tests holds x s
  | failed (f : Failure) : ¬ holds → x s = (.error f, s) → Tests holds x s

section

variable {σ : Scope} {s : Session} {c : Claim} {expected : Value}

/-- Once the right side is known, the left side decides. -/
private theorem Claim.tests_check {outcome : Except Failure Value} {holds : Prop}
    (hactual : c.target.eval σ s = (outcome, s)) (hexpected : c.operand.eval σ s = (.ok expected, s))
    (hholds : holds ↔ ∃ v, outcome = .ok v ∧
      (if c.identical then v.isSame expected else v.agrees s.world expected) = true) :
    Tests holds (c.check σ) s := by
  cases outcome with
  | error f =>
      refine .failed f (fun h => ?_) ?_
      · obtain ⟨v, hv, -⟩ := hholds.mp h
        cases hv
      · rw [check, bind_apply, hactual, andThen_error]
  | ok v =>
      have hcheck : c.check σ s =
          (if (if c.identical then v.isSame expected else v.agrees s.world expected) then .ok ()
            else .error (.raised .assertion "" none none), s) := by
        simp only [check, bind_apply, hactual, andThen_ok, hexpected, world_apply]
        cases (if c.identical then v.isSame expected else v.agrees s.world expected) <;> rfl
      by_cases h : (if c.identical then v.isSame expected else v.agrees s.world expected) = true
      · exact .passed (hholds.mpr ⟨v, rfl, h⟩) (by rw [hcheck, if_pos h])
      · refine .failed _ (fun hh => ?_) (by rw [hcheck, if_neg h])
        obtain ⟨u, hu, hsame⟩ := hholds.mp hh
        cases hu
        exact h hsame

end

end Audit

namespace World

/-- Reading an attribute gives the value itself, for nothing and for truth values, or else a value that is
equal to it. -/
def Confirms (w : World) (n : Node) (e : String × Value) : Prop :=
  ∃ v, w.read n e.1 = .ok v ∧ if e.2.isIdentified then v = e.2 else v.agrees w e.2 = true

/-- An access leads to the node. -/
def Holds (w : World) (n : Node) (access : Access) (m : Node) : Prop :=
  w.readAccess n access = .ok (.ofNode m)

end World

namespace Value

/-- What is compared by identity is what it is the same as. -/
theorem isSame_iff {v w : Value} (h : w.isIdentified = true) : v.isSame w = true ↔ v = w := by
  cases w <;> cases h <;> cases v <;> simp [isSame]

theorem isSame_ofNode_iff {v : Value} {n : Node} : v.isSame (.ofNode n) = true ↔ v = .ofNode n := by
  cases n <;> cases v <;> simp [isSame, ofNode]

end Value

namespace Audit

open Replay Run

variable {σ : Scope} {s : Session} {c : CursorId} {cursor : Cursor} {name : String}

/-- The assertion about an attribute that is told. -/
theorem Claim.tests_told {e : String × Value} {o : Operand} (hσ : σ name = some (.cursor c))
    (hc : s.cursor? c = some cursor) (ho : o.Means s.world.hierarchy e.2)
    (hfloat : ∀ negative, e.2 = .float (.infinite negative) → σ floatName = none)
    (htypes : ∀ t, e.2.mentioned? = some t →
      σ (s.world.hierarchy.qualifiedName t) = some (.type t)) :
    Tests (s.world.Confirms cursor.node e)
      ((⟨⟨name, ["node", e.1], none⟩, e.2.isIdentified, o⟩ : Claim).check σ) s := by
  obtain ⟨v', hv', hechoes⟩ := ho.eval hfloat htypes
  have hactual := Path.eval_access hσ hc ⟨e.1, none⟩
  have hread : s.world.readAccess cursor.node ⟨e.1, none⟩ = s.world.read cursor.node e.1 := by
    rw [World.readAccess]
    cases s.world.read cursor.node e.1 <;> rfl
  rw [hread] at hactual
  refine tests_check hactual hv' (exists_congr fun v => and_congr_right fun _ => ?_)
  dsimp only
  cases hidentified : e.2.isIdentified with
  | true =>
      simp only [if_true, hechoes.eq_of_isIdentified hidentified, Value.isSame_iff hidentified]
  | false => simp only [Bool.false_eq_true, if_false, Value.agrees_of_echoes hechoes]

/-- The assertion that an attribute holds a child. -/
theorem Claim.tests_holder (access : Access) {p : Path} {m : Node} (hσ : σ name = some (.cursor c))
    (hc : s.cursor? c = some cursor) (hp : p.eval σ s = (.ok (.ofNode m), s)) :
    Tests (s.world.Holds cursor.node access m)
      ((⟨⟨name, ["node", access.name], access.index⟩, true, .path p⟩ : Claim).check σ) s := by
  have hexpected : (Operand.path p).eval σ s = (.ok (.ofNode m), s) := hp
  refine tests_check (Path.eval_access hσ hc access) hexpected ?_
  simp only [if_true, Value.isSame_ofNode_iff, World.Holds, exists_eq_right]

end Audit

end TreeShape
