import TreeShape.Proofs.Attributes.Bearing
import TreeShape.Proofs.Attributes.Guarding

/-!
# Dumps of attributes are exact

The dump of the attributes of a tree, read and run on another tree, succeeds exactly if the dump of the
structure does and the other tree bears out what the first one says of attributes: those that are told
have the same values, and those that hold a child hold the counterpart of that child.

## Strategy

The script does what the items of the dumped structure do and asserts something on the way,
`guards_audit`, and the session is the same at every step.  So whatever an assertion speaks of is found
where the structure has put it, and what the structure demands is known already,
`Pattern.matchTree_succeeds_iff`.

* **Names.**  An assertion says `cursor2.node`, and what it speaks of depends on what the name was bound
  to by then.  A block binds the name of its depth, and so does a call whose child is held; both bind
  deeper names than the statements that come after them use.  `SameDownTo` says how far two scopes
  agree, and `Binds` what the statements at a depth rely on.  That names of depths are no names of types
  is what keeps the types bound.
* **A child.**  It has a block, or a call with a name, or a call without one, and an assertion behind it
  if it is held: `guards_childSuite`.  The assertion is made after the child was matched, when the
  cursor has moved on; it speaks of the child that was matched then.
* **The induction** is over the dumped tree, for all depths and limits together with what the scope has
  to bind, `guards_audits`.  A child whose script is empty demands nothing, so nothing has to be
  asserted in the block that it does not have (`of_audit_eq_done`).
* **In words.**  In the end a dump is run in a world of its own, and what it says of values is said
  through literals.  `World.IsLegible` is what is asked of the dumped nodes for that.
-/

namespace TreeShape

open Replay Run Audit

/-! ## What names stand for on the way -/

/-- The types that names stand for are what they are in another hierarchy. -/
def Hierarchy.AgreesOn (h : Hierarchy) (types : String → Option NodeType) (other : Hierarchy) : Prop :=
  ∀ name t, types name = some t → h.info t = other.info t

namespace Audit

/-- Two scopes differ at most in the cursors of greater depths. -/
def SameDownTo (depth : Nat) (σ τ : Scope) : Prop :=
  ∀ name, (∀ d, depth < d → name ≠ Transcript.plainCursorName d) → τ name = σ name

/-- What the statements at a depth rely on: the cursor of the depth is bound, and names of types stand for
types. -/
structure Binds (σ : Scope) (types : String → Option NodeType) (depth : Nat) (c : CursorId) : Prop where
  cursor : σ (Transcript.plainCursorName depth) = some (.cursor c)
  type : ∀ name, IsTypeName name → σ name = (types name).map .type

section

variable {σ τ υ : Scope} {types : String → Option NodeType} {depth : Nat} {c d : CursorId}

theorem SameDownTo.refl (depth : Nat) (σ : Scope) : SameDownTo depth σ σ := fun _ _ => rfl

theorem SameDownTo.trans (h : SameDownTo depth σ τ) (h' : SameDownTo depth τ υ) :
    SameDownTo depth σ υ :=
  fun name hname => (h' name hname).trans (h name hname)

/-- What is done inside the block of a child changes no cursor down to the block's parent. -/
theorem SameDownTo.of_bind {thing : Thing}
    (h : SameDownTo (depth + 1) (σ.bind (Transcript.plainCursorName (depth + 1)) thing) τ) :
    SameDownTo depth σ τ := by
  intro name hname
  rw [h name fun d hd => hname d (Nat.lt_of_succ_lt hd),
    σ.bind_of_ne _ (hname (depth + 1) (Nat.lt_succ_self depth))]

theorem plainCursorName_ne {i j : Nat} (h : i < j) :
    Transcript.plainCursorName i ≠ Transcript.plainCursorName j :=
  fun heq => Nat.ne_of_lt h (plainCursorName_injective heq)

theorem Binds.of_same (h : Binds σ types depth c) (hτ : SameDownTo depth σ τ) :
    Binds τ types depth c where
  cursor := by rw [hτ _ fun d hd => plainCursorName_ne hd, h.cursor]
  type name hname := by rw [hτ name fun d _ => hname.ne_cursor d, h.type name hname]

/-- A block binds the cursor of its depth. -/
theorem Binds.bind (h : Binds σ types depth c) (d : CursorId) :
    Binds (σ.bind (Transcript.plainCursorName (depth + 1)) (.cursor d)) types (depth + 1) d where
  cursor := σ.bind_self _ _
  type name hname := by rw [σ.bind_of_ne _ (hname.ne_cursor _), h.type name hname]

end

theorem isTypeName_floatName : IsTypeName floatName :=
  ⟨by decide, by decide, by decide, ne_plainCursorName (by decide)⟩

/-! ## Statements that assert on the way -/

section

variable {β : Type} {more : Prop} {kind : Scope → Prop} {σ : Scope} {y : Run β} {s : Session}

/-- Assertions in front of a suite. -/
theorem guards_after {ι : Type} {es : List ι} {claim : ι → Claim} {holds : ι → Prop} {rest : Suite Statement}
    (htests : ∀ e ∈ es, Tests (holds e) ((claim e).check σ) s)
    (hrest : Guards more kind (rest.exec σ) y s) :
    Guards ((∀ e ∈ es, holds e) ∧ more) kind
      ((Suite.after (es.map fun e => .claim (claim e)) rest).exec σ) y s := by
  induction es with
  | nil => exact hrest.congr (by simp)
  | cons e es ih =>
      have hexec : (Suite.after ((e :: es).map fun e => .claim (claim e)) rest).exec σ =
          (do
            (claim e).check σ
            (Suite.after (es.map fun e => .claim (claim e)) rest).exec σ) := by
        simp only [List.map_cons, Suite.after, List.foldr_cons, Suite.exec, Executable.exec, Statement.exec, bind_assoc,
          pure_bind]
      rw [hexec]
      refine (Guards.test (htests e List.mem_cons_self)
        (ih fun e' he' => htests e' (List.mem_cons_of_mem e he'))).congr ?_
      rw [List.forall_mem_cons, and_assoc]

end

/-! ## The statements for a child -/

section

variable {σ : Scope} {owner type : String} {c : CursorId} {t : NodeType} (ho : σ owner = some (.cursor c))
  (ht : σ type = some (.type t)) (ignoring : Bool) (name : String) (rest : Suite Statement)

include ho ht

/-- A call by itself, and the statements after it. -/
theorem exec_child : (Suite.step (.call (childCall owner "child" type ignoring)) rest).exec σ = (do
    let _ ← c.child ⟨t, ignoring⟩ fun d => Items.done.run d
    rest.exec σ) := by
  simp only [Suite.exec, Executable.exec, Statement.exec, make_child ho ht, discard_bind, bind_assoc,
    pure_bind, Items.run]

/-- A call whose node gets a name, and the statements after it. -/
theorem exec_boundChild : (Suite.step (.bind name (childCall owner "child" type ignoring)) rest).exec σ =
    (do
      let n ← c.child ⟨t, ignoring⟩ fun d => Items.done.run d
      rest.exec (σ.bind name (.node n))) := by
  simp only [Suite.exec, Executable.exec, Statement.exec, make_child ho ht, bind_assoc, pure_bind, Items.run]

end

section

variable {depth : Nat} {type : String} {ignoring : Bool} {holder : Option Access} {inside rest : Suite Statement}

/-- A child with something to say inside of it has a block. -/
theorem childSuite_of_ne_done (h : inside ≠ .done) :
    childSuite depth type ignoring holder inside rest =
      .block (childCall (Transcript.plainCursorName depth) "child_block" type ignoring)
        (Transcript.plainCursorName (depth + 1)) inside
        (.after (holder.toList.map fun access => holderClaim (Transcript.plainCursorName depth) access
          ⟨Transcript.plainCursorName (depth + 1), ["node"], none⟩) rest) := by
  cases inside with
  | done => exact absurd rfl h
  | _ => rfl

variable {σ : Scope} {types : String → Option NodeType} {s : Session} {c : CursorId} {cursor : Cursor}
  {root : Node} {nodeType : NodeType} {items more : Items} {bears : Node → Prop} {others : Prop}

/-- What stands behind the statement for a child: the assertion about its holder, if there is one, and the
statements for the other children. -/
private theorem guards_behind {τ : Scope} {t : Session} {m : Node} {child : Path}
    (hc : t.cursor? c = some { cursor with next := cursor.next + 1 })
    (hτ : τ (Transcript.plainCursorName depth) = some (.cursor c))
    (hm : cursor.children[cursor.next]? = some m) (hworld : t.world = s.world)
    (hchild : holder ≠ none → child.eval τ t = (.ok (.ofNode m), t)) {kind : Scope → Prop}
    (hrest : Guards others kind (rest.exec τ) (more.run c) t) :
    Guards ((∀ access ∈ holder, ∀ m, cursor.children[cursor.next]? = some m →
        s.world.Holds cursor.node access m) ∧ others) kind
      ((Suite.after (holder.toList.map fun access =>
        holderClaim (Transcript.plainCursorName depth) access child) rest).exec τ) (more.run c) t := by
  have htests : ∀ access ∈ holder.toList, Tests (t.world.Holds cursor.node access m)
      ((⟨⟨Transcript.plainCursorName depth, ["node", access.name], access.index⟩, true, .path child⟩ :
        Claim).check τ) t := by
    intro access haccess
    have hne : holder ≠ none := by
      rintro rfl
      cases haccess
    have hheld := Claim.tests_holder access hτ hc (hchild hne)
    exact hheld
  refine (guards_after htests hrest).congr (and_congr_left fun _ => ?_)
  simp [hm, hworld]

/-- In the block of a child of the cursor's node the statements do what the items say, and assert what has to
be said of the child. -/
def GuardsInside (types : String → Option NodeType) (depth : Nat) (cursor : Cursor) (root : Node) (w : World)
    (inside : Suite Statement) (items : Items) (bears : Node → Prop) : Prop :=
  ∀ {τ : Scope} {t : Session} {d : CursorId} {inner : Cursor}, Binds τ types (depth + 1) d →
    t.cursor? d = some inner → inner.IsUsable → inner.Watches t.world root → inner.next = 0 →
    inner.config = cursor.config → t.world = w →
    Guards (bears inner.node) (SameDownTo (depth + 1) τ) (inside.exec τ) (items.run d) t

/-- A block for a child does what matching the child does, and asserts what has to be said of it. -/
private theorem guards_block (hσ : Binds σ types depth c) (hc : s.cursor? c = some cursor)
    (hw : cursor.Watches s.world root) (e : Expected)
    (hinside : GuardsInside types depth cursor root s.world inside items bears) :
    Guards (∀ m, cursor.children[cursor.next]? = some m → bears m)
      (SameDownTo (depth + 1) (σ.bind (Transcript.plainCursorName (depth + 1)) (.cursor s.freshCursor)))
      (do
        (← c.childBlock e).within fun d =>
          inside.exec (σ.bind (Transcript.plainCursorName (depth + 1)) (.cursor d)))
      (c.child e fun d => items.run d) s := by
  rw [c.child_eq_within]
  refine Guards.bind_same fun b t hb => Guards.within fun d u hopen => ?_
  rcases c.childBlock_cases e s with ⟨f, hf⟩ | ⟨_, hc', -, -, hok⟩
  · rw [hf] at hb
    cases hb
  rw [hc] at hc'
  cases hc'
  rw [hok] at hb
  cases hb
  obtain ⟨rfl, hworld, n, children, hn, hcursor, hwatches⟩ := CursorId.watches_of_open hc hw hopen
  rw [← hworld] at hwatches
  have hguards := hinside (hσ.bind _) hcursor ⟨rfl, rfl⟩ hwatches rfl rfl hworld
  refine (hguards.tellNode ?_ hcursor).congr ?_
  · exact ⟨fun t => ((items.follows _).keeps.after t).grows⟩
  · simp only [hn, Option.some.injEq, forall_eq']
    rfl

/-- The statements for a child, and those behind them, do what the items say, and assert what the
statements in the child's block do, that the child is held, and what the statements behind do. -/
theorem guards_childSuite (hσ : Binds σ types depth c) (htype : IsTypeName type)
    (htypes : types type = some nodeType) (hc : s.cursor? c = some cursor) (hu : cursor.IsUsable)
    (hw : cursor.Watches s.world root) (hdone : inside = .done → items = .done ∧ ∀ m, bears m)
    (hinside : GuardsInside types depth cursor root s.world inside items bears)
    (hrest : ∀ {τ : Scope} {t : Session}, SameDownTo depth σ τ → t.world = s.world →
      t.cursor? c = some { cursor with next := cursor.next + 1 } →
      cursor.next + 1 ≤ cursor.children.length →
      Guards others (SameDownTo depth τ) (rest.exec τ) (more.run c) t) :
    Guards ((∀ m, cursor.children[cursor.next]? = some m → bears m) ∧
        (∀ access ∈ holder, ∀ m, cursor.children[cursor.next]? = some m →
          s.world.Holds cursor.node access m) ∧ others)
      (SameDownTo depth σ)
      ((childSuite depth type ignoring holder inside rest).exec σ)
      ((Items.child ⟨nodeType, ignoring⟩ items more).run c) s := by
  have hname : σ type = some (.type nodeType) := by rw [hσ.type type htype, htypes]; rfl
  have hrun : (Items.child ⟨nodeType, ignoring⟩ items more).run c = (do
      let _ ← c.child ⟨nodeType, ignoring⟩ fun d => items.run d
      more.run c) := discard_bind ..
  rw [hrun]
  -- What comes after the child may rely on there being one.
  replace hrest : ∀ {τ : Scope} {t : Session} {m : Node}, SameDownTo depth σ τ → t.world = s.world →
      t.cursor? c = some { cursor with next := cursor.next + 1 } →
      cursor.children[cursor.next]? = some m →
      Guards others (SameDownTo depth σ) (rest.exec τ) (more.run c) t :=
    fun hsame hworld hc' hm => (hrest hsame hworld hc' (List.getElem?_eq_some_iff.mp hm).1).imp
      fun _ => hsame.trans
  by_cases hempty : inside = .done
  · -- The child is matched by a call, and gets a name if it is held.
    obtain ⟨rfl, hbears⟩ := hdone hempty
    subst hempty
    have hcongr : ∀ {p : Prop}, p ↔ (∀ m, cursor.children[cursor.next]? = some m → bears m) ∧ p :=
      (and_iff_right fun m _ => hbears m).symm
    cases holder with
    | none =>
        rw [childSuite, exec_child hσ.cursor hname]
        refine (Guards.bind_same fun m t hchild => ?_).congr hcongr
        obtain ⟨hm, hworld, hc', -⟩ := c.child_ok hc hu hw hchild
        exact (hrest (.refl depth σ) hworld hc' hm).congr (by simp)
    | some access =>
        rw [childSuite, exec_boundChild hσ.cursor hname]
        refine (Guards.bind_same fun m t hchild => ?_).congr hcongr
        obtain ⟨hm, hworld, hc', -⟩ := c.child_ok hc hu hw hchild
        have hsame : SameDownTo depth σ (σ.bind (Transcript.plainCursorName (depth + 1)) (.node m)) :=
          .of_bind (.refl _ _)
        exact guards_behind hc' (hσ.of_same hsame).cursor hm hworld
          (fun _ => Path.eval_bound (σ.bind_self _ _)) (hrest hsame hworld hc' hm)
  · -- The child has a block, whose cursor keeps its name until the next child.
    rw [childSuite_of_ne_done hempty, exec_childBlock hσ.cursor hname]
    refine (guards_block hσ hc hw _ hinside).bind fun τ m t hτ hchild => ?_
    obtain ⟨hm, hworld, hc', inner, hinner, rfl⟩ := c.child_ok hc hu hw hchild
    have hsame : SameDownTo depth σ τ := .of_bind hτ
    refine guards_behind hc' (hσ.of_same hsame).cursor hm hworld (fun _ => ?_) (hrest hsame hworld hc' hm)
    refine Path.eval_node ?_ hinner
    rw [hτ _ fun d hd => plainCursorName_ne hd, σ.bind_self]

end

end Audit

namespace Tree

variable {notes : Notes} {classOf : Node → NodeType} {types : String → Option NodeType} {h : Hierarchy}
  {limit : DumpLimit} {depth : Nat}

/-- Where a script has nothing to say, there is nothing to bear out. -/
theorem of_audit_eq_done {t : Tree} (hdone : t.audit notes limit depth = .done) :
    t.items classOf limit = .done ∧ ∀ v w n, t.BorneOut notes v w limit n := by
  obtain ⟨a, ts⟩ := t
  rw [audit, Suite.after_eq_done] at hdone
  obtain ⟨htold, hrest⟩ := hdone
  have hnone : notes.told a = [] := List.map_eq_nil_iff.mp htold
  have hnil : limit.isExhausted = false → ts = [] := by
    intro hlimit
    rw [hlimit] at hrest
    cases ts with
    | nil => rfl
    | cons t ts => exact absurd hrest childSuite_ne_done
  constructor
  · rw [items]
    split
    · rfl
    · next hlimit => rw [hnil (by simpa using hlimit), itemsOf]
  · intro v w n
    rw [borneOut_branch, hnone]
    refine ⟨by simp, fun hlimit => ?_⟩
    rw [hnil hlimit]
    exact allBorneOut_nil

/-- Wherever the types that names stand for are those of `h`, the script of a tree does what the dump of the
structure says of the children, and asserts what is said of the tree. -/
def IsGuarded (notes : Notes) (classOf : Node → NodeType) (types : String → Option NodeType)
    (h : Hierarchy) (limit : DumpLimit) (depth : Nat) (t : Tree) : Prop :=
  ∀ {σ : Scope} {s : Session} {c : CursorId} {cursor : Cursor} {root : Node},
    s.world.hierarchy.AgreesOn types h → Binds σ types depth c → s.cursor? c = some cursor →
    cursor.IsUsable → cursor.Watches s.world root → cursor.next = 0 →
    Guards (t.BorneOut notes (cursor.config.view s.world) s.world limit cursor.node) (SameDownTo depth σ)
      ((t.audit notes limit depth).exec σ) ((t.items classOf limit).run c) s

/-- The statements for several children. -/
private theorem guards_audits {a : Node} {ts : List Tree}
    (hnames : ∀ t ∈ ts, IsTypeName (notes.typeName t.root))
    (htypes : ∀ t ∈ ts, types (notes.typeName t.root) = some (classOf t.root))
    (ih : ∀ t ∈ ts, t.IsGuarded notes classOf types h limit.below (depth + 1))
    {σ : Scope} {s : Session} {c : CursorId} {cursor : Cursor} {root : Node}
    (hh : s.world.hierarchy.AgreesOn types h) (hσ : Binds σ types depth c)
    (hc : s.cursor? c = some cursor) (hu : cursor.IsUsable) (hw : cursor.Watches s.world root) :
    Guards (AllBorneOut notes (cursor.config.view s.world) s.world limit a cursor.node cursor.next ts)
      (SameDownTo depth σ) ((audits notes limit depth a cursor.next ts).exec σ)
      ((itemsOf classOf limit ts).run c) s := by
  induction ts generalizing σ s cursor with
  | nil => exact (Guards.pure () (.refl depth σ)).congr (iff_of_true trivial allBorneOut_nil)
  | cons t ts ihts =>
      have hchildren : (cursor.config.view s.world).children cursor.node = cursor.children :=
        View.children_of_ask hw.asked
      rw [audits, itemsOf]
      refine (guards_childSuite hσ (hnames t List.mem_cons_self) (htypes t List.mem_cons_self) hc hu hw
        (fun hdone => ?_) ?_ ?_).congr (by rw [allBorneOut_cons, hchildren])
      · obtain ⟨hitems, hbears⟩ := of_audit_eq_done hdone
        exact ⟨hitems, hbears _ _⟩
      · intro τ u d inner hτ hd hinner hwatches hnext hconfig hworld
        have hguards := ih t List.mem_cons_self (by rw [hworld]; exact hh) hτ hd hinner hwatches hnext
        rw [hconfig, hworld] at hguards
        exact hguards
      · intro τ u hτ hworld hc' hle
        have hwatches := hw.advance hle
        rw [← hworld] at hwatches
        have hguards := ihts (fun u hu => hnames u (List.mem_cons_of_mem t hu))
          (fun u hu => htypes u (List.mem_cons_of_mem t hu))
          (fun u hu => ih u (List.mem_cons_of_mem t hu)) (by rw [hworld]; exact hh) (hσ.of_same hτ) hc' hu
          hwatches
        rw [hworld] at hguards
        exact hguards

section

variable {literals : String → Option Value} {w : World} {v : View}

/-- The assertions about a node, made at the cursor of another one. -/
private theorem tests_claims {a : Node} (ha : w.IsLegible literals types a) {σ : Scope} {s : Session}
    {c : CursorId} {cursor : Cursor} (hh : s.world.hierarchy.AgreesOn types w.hierarchy)
    (hσ : Binds σ types depth c) (hc : s.cursor? c = some cursor) :
    ∀ e ∈ (AttributeDump.notes literals w v).told a, Tests (s.world.Confirms cursor.node e)
      ((⟨⟨Transcript.plainCursorName depth, ["node", e.1], none⟩, e.2.isIdentified,
        (AttributeDump.notes literals w v).operand e.2⟩ : Claim).check σ) s := by
  intro e he
  obtain ⟨-, text, htext⟩ := AttributeDump.mem_of_mem_told he
  obtain ⟨-, -, hmeans⟩ := ha.reads_operand (v := v) he htext
  have hinfo : ∀ m, e.2.mentioned? = some m → s.world.hierarchy.info m = w.hierarchy.info m :=
    fun m hm => hh _ m (ha.mentioned e he m hm)
  refine Claim.tests_told hσ.cursor hc (hmeans.congr hinfo) (fun negative he' => ?_) fun m hm => ?_
  · rw [hσ.type floatName isTypeName_floatName, ha.infinite e he negative he']
    rfl
  · rw [Hierarchy.qualifiedName, hinfo m hm, ← Hierarchy.qualifiedName,
      hσ.type _ (ha.mentionedName e he m hm), ha.mentioned e he m hm]
    rfl

/-- The script of the attributes of a tree asserts what is said of the tree. -/
theorem guards_audit (t : Tree) (hlegible : ∀ n, t.Shown limit n → w.IsLegible literals types n) :
    t.IsGuarded (AttributeDump.notes literals w v) w.typeOf types w.hierarchy limit depth := by
  induction t using Tree.induct generalizing limit depth with
  | branch a ts ih =>
      intro σ s c cursor root hh hσ hc hu hw hnext
      rw [audit, items]
      -- At the limit nothing is said of the children.
      have hrest : Guards (limit.isExhausted = false →
            AllBorneOut (AttributeDump.notes literals w v) (cursor.config.view s.world) s.world limit a
              cursor.node 0 ts) (SameDownTo depth σ)
          ((if limit.isExhausted then .done
            else audits (AttributeDump.notes literals w v) limit depth a 0 ts : Suite Statement).exec σ)
          ((if limit.isExhausted then .done else itemsOf w.typeOf limit ts : Items).run c) s := by
        cases hlimit : limit.isExhausted with
        | true => exact (Guards.pure () (.refl depth σ)).congr (by simp)
        | false =>
            have hchild : ∀ t ∈ ts, ∀ m, t.Shown limit.below m → w.IsLegible literals types m :=
              fun t ht m hm => hlegible m (.child hlimit ht hm)
            have hchildren := guards_audits (a := a)
              (fun t ht => (hchild t ht _ (t.shown_root _)).typeName)
              (fun t ht => (hchild t ht _ (t.shown_root _)).type)
              (fun t ht => ih t ht (hchild t ht)) hh hσ hc hu hw
            rw [hnext] at hchildren
            exact hchildren.congr (by simp)
      exact (guards_after (tests_claims (hlegible a .root) hh hσ hc) hrest).congr borneOut_branch.symm

/-- In the block of the root all is asserted that is said of the tree. -/
private theorem guards_root {t : Tree}
    (hlegible : ∀ n, t.Shown limit n → w.IsLegible literals types n) {c : Config} (hi : c.implicit = none)
    (root : Node) {s : Session} (hh : s.world.hierarchy.AgreesOn types w.hierarchy) (e : Expected)
    {σ : Scope} (hσ : ∀ name, IsTypeName name → σ name = (types name).map .type) :
    Guards (t.BorneOut (AttributeDump.notes literals w v) (c.view s.world) s.world limit root)
      (fun _ => True)
      (s.freshBlock.within fun cursor => (t.audit (AttributeDump.notes literals w v) limit 0).orPass.exec
        (σ.bind (Transcript.plainCursorName 0) (.cursor cursor)))
      (s.freshBlock.within fun cursor => do
        discard ((t.items w.typeOf limit).run cursor)
        return (← Run.cursor cursor).node)
      (s.addBlock (c.rootBlock e [] root)) := by
  refine Guards.within fun d u hopen => ?_
  obtain ⟨-, hworld, n, children, taken, htakes, hcursor, hwatches⟩ := BlockId.watches_of_open
    (s.block?_freshBlock (c.rootBlock e [] root)) (fun n taken htakes => by
      cases htakes with
      | root => exact Config.awaits_rootBlock hi ..
      | child hparent => cases hparent) hopen
  obtain rfl : n = root := by
    cases htakes with
    | root => rfl
    | child hparent => cases hparent
  -- No type has the name of a cursor, so the new binding hides none.
  have hbinds : Binds (σ.bind (Transcript.plainCursorName 0) (.cursor d)) types 0 d := by
    refine ⟨σ.bind_self _ _, fun name hname => ?_⟩
    rw [σ.bind_of_ne _ (hname.ne_cursor 0), hσ name hname]
  rw [Suite.exec_orPass]
  rw [← hworld] at hwatches
  have hguards := guards_audit (v := v) t hlegible
    (by rw [hworld]; exact hh) hbinds hcursor ⟨rfl, rfl⟩ hwatches rfl
  rw [hworld] at hguards
  exact (hguards.imp fun _ _ => trivial).tellNode
    ⟨fun t => (((Tree.items ..).follows d).keeps.after t).grows⟩ hcursor

/-- The script comes down to a block around the statements for the root. -/
private theorem exec_auditScript (notes : Notes) (limit : DumpLimit) {t : Tree} {σ : Scope}
    {c : Config} {root : Node} {type : NodeType} (hfunction : σ "match_node" = some (.matcher c))
    (hnode : σ "node" = some (.node root)) (htype : σ (notes.typeName t.root) = some (.type type))
    (hroot : root ≠ .absent) (s : Session) :
    (t.auditScript notes limit).exec σ s =
      s.freshBlock.within (fun cursor => (t.audit notes limit 0).orPass.exec
        (σ.bind (Transcript.plainCursorName 0) (.cursor cursor)))
          (s.addBlock (c.rootBlock ⟨type, limit.isExhausted⟩ [] root)) := by
  rw [auditScript, Suite.exec, make_root hfunction hnode htype, bind_assoc, bind_apply,
    Config.matching_apply hroot, andThen_ok]
  simp only [pure_bind, Suite.exec, bind_pure]

/-- Running the script of the attributes of a tree on a root comes down to agreeing with the tree and to
bearing out what is said of it. -/
theorem replay_auditScript {t : Tree} (hlegible : ∀ n, t.Shown limit n → w.IsLegible literals types n)
    {c : Config} (hi : c.implicit = none) {root : Node} (hroot : root ≠ .absent) {s : Session}
    (hh : s.world.hierarchy.AgreesOn types w.hierarchy) :
    ((t.auditScript (AttributeDump.notes literals w v) limit).replay types c root s).1 = .ok () ↔
      t.BorneOut (AttributeDump.notes literals w v) (c.view s.world) s.world limit root ∧
        t.Agrees (c.view s.world) w.typeOf limit none root := by
  have hstart : ∀ name, IsTypeName name → Scope.start types c root name = (types name).map .type :=
    fun name hname => Scope.start_of_ne _ _ _ hname.ne_node hname.ne_function
  have htype : Scope.start types c root (w.typeNameOf t.root) = some (.type (w.typeOf t.root)) := by
    have hshown := hlegible _ (t.shown_root limit)
    rw [hstart _ hshown.typeName, hshown.type]
    rfl
  have hexec := exec_auditScript (AttributeDump.notes literals w v) limit
    (Scope.start_function types c root) (Scope.start_node types c root) htype hroot s
  -- What the statements do beside asserting is to match the pattern of the tree.
  have hmatch : (t.pattern w.typeOf limit).matchTree c root s = s.freshBlock.within (fun cursor => do
        discard ((t.items w.typeOf limit).run cursor)
        return (← Run.cursor cursor).node)
      (s.addBlock (c.rootBlock ⟨w.typeOf t.root, limit.isExhausted⟩ [] root)) :=
    Config.matchTree_apply hroot
  rw [Suite.replay_eq_ok_iff, hexec, (guards_root hlegible hi root hh _ hstart).succeeds_iff,
    ← hmatch, (t.pattern w.typeOf limit).matchTree_succeeds_iff hi hroot, t.conforms_pattern]

end

/-- The dump of the attributes of a finite tree reads as a script.  The script succeeds on just those trees
on which the script of the structure succeeds and which bear out what the dump says of attributes.  The
tree itself is one of them, if its nodes are instances of their own classes and have their parents.  The
height that views give to trees is no restriction for the usual adapters, `Adapter.isBounded_view`. -/
theorem attribute_dump_exact {a : Adapter} {w : World} (ha : (a.view w).IsBounded) {t : Tree}
    (ht : t.ShownBy (a.view w)) (serial : Nat) {indent : Nat} (hindent : 1 ≤ indent) (limit : DumpLimit)
    (literals : String → Option Value) (types : String → Option NodeType)
    (hlegible : ∀ n, t.Shown limit n → w.IsLegible literals types n) :
    ∃ text script plainText plain,
      (Printer.hookedAttributes serial a { indent := indent } {}).render w t.root limit = .ok text ∧
      Audit.read literals text = some script ∧
      (Printer.transcript serial a fun w => Transcript.plain indent w.typeNameOf).render w t.root limit =
        .ok plainText ∧
      Replay.read plainText = some plain ∧
      (t.Linked (a.view w) → (∀ n, t.Shown limit n → (a.view w).askType n (w.typeOf n) = .ok true) →
        ∀ c : Config, c.adapter = a → c.implicit = none → ∀ s : Session, s.world = w →
          t.root ≠ .absent → (script.replay types c t.root s).1 = .ok ()) ∧
      ∀ c : Config, c.implicit = none → ∀ (s : Session) (root : Node), root ≠ .absent →
        s.world.hierarchy.AgreesOn types w.hierarchy →
        ((script.replay types c root s).1 = .ok () ↔ (plain.replay types c root s).1 = .ok () ∧
          t.BorneOut (AttributeDump.notes literals w (a.view w)) (c.view s.world) s.world limit root) := by
  have hnames : ∀ n, t.Shown limit n → IsTypeName (w.typeNameOf n) := fun n hn => (hlegible n hn).typeName
  refine ⟨_, _, _, _,
    ht.render_attributes (ha t ht) (fun n hn => (hlegible n hn).candid.table) serial indent,
    read_attributes hindent t limit hlegible, ht.render_transcript (ha t ht) serial indent limit,
    read_transcript hindent t limit fun n hn => (hnames n hn).identifier, ?_, ?_⟩
  · -- The tree itself bears out what was read off it.
    rintro hlinked hown c rfl hi s rfl hroot
    refine (replay_auditScript hlegible hi hroot fun _ _ _ => rfl).mpr ⟨ht.borneOut_self hlegible, ?_⟩
    exact ht.agrees_self hlinked hown rfl
  · intro c hi s root hroot hh
    rw [replay_auditScript hlegible hi hroot hh,
      replay_script hnames (fun n hn => (hlegible n hn).type) hi hroot s, and_comm]

end Tree

/-- The sample with a label on its left leaf, and an attribute of the pair that holds this leaf. -/
def Sample.labelled (label : Int) : World where
  hierarchy := hierarchy
  forest := ⟨#[{ type := pair, children := [left, right], attributes := .ofEntries [("first", .node 1)] },
    { type := leaf, parent := root, attributes := .ofEntries [("label", .int label)] },
    { type := leaf, parent := root }]⟩
  registries := []

/-- Reads the literals of whole numbers. -/
def Sample.readInt (text : String) : Option Value := (Text.readWhole text).toOption.map .int

namespace Tree

theorem shownBy_labelled (label : Int) :
    sample.ShownBy (Sample.adapter.view (Sample.labelled label)) := by
  refine .branch rfl ?_
  intro t ht
  simp only [List.mem_cons, List.not_mem_nil, or_false] at ht
  rcases ht with rfl | rfl
  · exact .branch rfl (by simp)
  · exact .branch rfl (by simp)

theorem linked_labelled (label : Int) : sample.Linked (Sample.adapter.view (Sample.labelled label)) := by
  refine .branch (by simp [View.isLinkedTo, Sample.adapter, Adapter.downward]) ?_
  intro t ht
  simp only [List.mem_cons, List.not_mem_nil, or_false] at ht
  rcases ht with rfl | rfl
  · exact .branch (by simp) (by simp)
  · exact .branch (by simp) (by simp)

theorem isLegible_labelled {n : Node} (h : sample.Shown none n) :
    (Sample.labelled 7).IsLegible Sample.readInt sampleTypes n := by
  have hpair : IsTypeName "Pair" := ⟨by decide, by decide, by decide, ne_plainCursorName (by decide)⟩
  have hleaf : IsTypeName "Leaf" := ⟨by decide, by decide, by decide, ne_plainCursorName (by decide)⟩
  have hn := shown_sample h
  -- No node has more than one attribute, so there is nothing to sort.
  have hseen : ∀ e ∈ AttributeDump.attributesOf (AttributeDump.plain Sample.hierarchy)
      (Sample.labelled 7) n, e = ("first", .node 1) ∨ e = ("label", .int 7) := by
    have hroot : AttributeDump.attributesOf (AttributeDump.plain Sample.hierarchy)
      (Sample.labelled 7) Sample.root = [("first", .node 1)] := List.mergeSort_singleton _
    have hleft : AttributeDump.attributesOf (AttributeDump.plain Sample.hierarchy)
      (Sample.labelled 7) Sample.left = [("label", .int 7)] := List.mergeSort_singleton _
    have hright : AttributeDump.attributesOf (AttributeDump.plain Sample.hierarchy)
      (Sample.labelled 7) Sample.right = [] := List.mergeSort_nil
    rcases hn with rfl | rfl | rfl <;> simp [hroot, hleft, hright]
  have htold : ∀ e ∈ AttributeDump.told (Sample.labelled 7) n, e = ("label", .int 7) := by
    intro e he
    obtain ⟨hmem, text, htext⟩ := AttributeDump.mem_of_mem_told he
    rcases hseen e hmem with rfl | rfl
    · cases htext
    · rfl
  constructor
  · constructor
    · rcases hn with rfl | rfl | rfl <;> rfl
    · intro e _
      rcases hn with rfl | rfl | rfl <;> rfl
    · intro e he
      rcases hseen e he with rfl | rfl <;> decide
    · intro e he
      rcases hseen e he with rfl | rfl <;> trivial
  · rcases hn with rfl | rfl | rfl
    · exact hpair
    · exact hleaf
    · exact hleaf
  · rcases hn with rfl | rfl | rfl <;> rfl
  · intro e he t ht
    rw [htold e he] at ht
    cases ht
  · intro e he t ht
    rw [htold e he] at ht
    cases ht
  · intro e he
    rw [htold e he]
    exact ⟨.int 7, rfl, .same _⟩
  · intro e he negative hinfinite
    rw [htold e he] at hinfinite
    cases hinfinite

/-- The label is told of the left leaf. -/
theorem mem_told_labelled : ("label", .int 7) ∈ AttributeDump.told (Sample.labelled 7) Sample.left := by
  have hleft : AttributeDump.attributesOf (AttributeDump.plain Sample.hierarchy)
    (Sample.labelled 7) Sample.left = [("label", .int 7)] := List.mergeSort_singleton _
  have htold : AttributeDump.told (Sample.labelled 7) Sample.left =
      (AttributeDump.attributesOf (AttributeDump.plain Sample.hierarchy) (Sample.labelled 7)
        Sample.left).filter fun e => (e.2.literal? Sample.hierarchy).isSome := rfl
  rw [htold, hleft]
  exact List.mem_singleton_self _

/-- The dump of the labelled sample matches it, and no sample with another label. -/
theorem attribute_dump_exact_sample :
    (∀ n, sample.Shown none n → (Sample.labelled 7).IsLegible Sample.readInt sampleTypes n) ∧
    ∃ text script, (Printer.hookedAttributes 0 Sample.adapter { indent := 4 } {}).render
        (Sample.labelled 7) Sample.root none = .ok text ∧
      Audit.read Sample.readInt text = some script ∧
      (script.replay sampleTypes Sample.config Sample.root { world := Sample.labelled 7 }).1 = .ok () ∧
      (script.replay sampleTypes Sample.config Sample.root { world := Sample.labelled 8 }).1 ≠ .ok () := by
  have hlegible : ∀ n, sample.Shown none n →
      (Sample.labelled 7).IsLegible Sample.readInt sampleTypes n := fun _ => isLegible_labelled
  obtain ⟨text, script, _, _, htext, hread, -, -, hself, hother⟩ := attribute_dump_exact
    (Adapter.isBounded_view (.downward "sample" {}) _) (shownBy_labelled 7) 0 (show 1 ≤ 4 by decide) none
      Sample.readInt sampleTypes hlegible
  refine ⟨hlegible, text, script, htext, hread, ?_, ?_⟩
  · refine hself (linked_labelled 7) ?_ Sample.config rfl rfl _ rfl (by decide)
    intro n hn
    rcases shown_sample hn with rfl | rfl | rfl <;> rfl
  · intro hsucceeds
    obtain ⟨-, hborne⟩ := (hother Sample.config rfl { world := Sample.labelled 8 } Sample.root (by decide)
      fun _ _ _ => rfl).mp hsucceeds
    obtain ⟨-, hchildren⟩ := borneOut_branch.mp hborne
    obtain ⟨-, hleft⟩ := hchildren rfl 0 _ Sample.left rfl rfl
    obtain ⟨v, hread, hsame⟩ := (borneOut_branch.mp hleft).1 _ mem_told_labelled
    obtain rfl : Value.int 8 = v := Except.ok.inj hread
    cases hsame

end Tree

end TreeShape
