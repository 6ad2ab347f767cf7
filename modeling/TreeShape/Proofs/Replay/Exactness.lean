import TreeShape.Proofs.Replay.Finite
import TreeShape.Proofs.Replay.Running
import TreeShape.Proofs.Sample
import TreeShape.Proofs.Shape.Refinement

/-!
# Dumps are exact

The transcript of a tree, read and run on another tree, succeeds exactly if that tree agrees with the
first one down to the limit of the dump.

## Strategy

* **From text to script.**  The transcript reads as `Tree.script`, and this is known of the text alone,
  `read_transcript`.
* **From script to pattern.**  The script does what a pattern says that is made of the same tree:
  `Tree.followsAt_exec`, by induction on the tree.  The names of cursors are used again and again; what
  keeps them apart is that the blocks inside a block bind only names of greater depths
  (`binders_suite`), so that after a block all names down to its own depth mean what they meant before
  (`Readies.of_exec`).
* **From pattern to trees.**  What follows a pattern succeeds on the trees that conform to it, and these
  are the ones that agree with the dumped tree, `conforms_pattern`.
* **Finite trees.**  The transcript that is printed is that of the whole tree, as printers go down to
  the height of the view and no finite tree is higher, `View.IsBounded`.
-/

namespace TreeShape

open Replay Run

namespace Tree

/-! ## Agreeing -/

/-- A node agrees with a tree down to a limit: it is an instance of the class of the tree's root, has the
right parent where that is known, and above the limit it has as many children as the root, each of which
agrees with its counterpart. -/
inductive Agrees (v : View) (classOf : Node → NodeType) : DumpLimit → Option Node → Tree → Node → Prop
  | branch {limit : DumpLimit} {parent? : Option Node} {a n : Node} {ts : List Tree}
      {below : List Node} :
      v.askType n (classOf a) = .ok true → v.isLinkedTo parent? n = true → v.ask n = .ok below →
      (limit.isExhausted = false → ts.length = below.length) →
      (limit.isExhausted = false → ∀ pair ∈ ts.zip below,
        Agrees v classOf limit.below (some n) pair.1 pair.2) →
      Agrees v classOf limit parent? (.branch a ts) n

mutual

/-- What the dump of a tree says of the children of its root. -/
def items (classOf : Node → NodeType) (limit : DumpLimit) : Tree → Items
  | .branch _ ts => if limit.isExhausted then .done else itemsOf classOf limit ts

/-- What the dump says of several children. -/
def itemsOf (classOf : Node → NodeType) (limit : DumpLimit) : List Tree → Items
  | [] => .done
  | t :: ts =>
    .child ⟨classOf t.root, limit.below.isExhausted⟩ (items classOf limit.below t)
      (itemsOf classOf limit ts)

end

/-- What the dump of a tree says of a node. -/
def pattern (classOf : Node → NodeType) (limit : DumpLimit) (t : Tree) : Pattern :=
  ⟨⟨classOf t.root, limit.isExhausted⟩, t.items classOf limit⟩

section

variable {v : View} {classOf : Node → NodeType}

/-- Nodes that conform to what is said of several children are as many, and agree with them. -/
private theorem cuts_itemsOf {limit : DumpLimit} {parent : Node} {ts : List Tree}
    (ih : ∀ t ∈ ts, ∀ n, (t.pattern classOf limit.below).Conforms v (some parent) n ↔
      t.Agrees v classOf limit.below (some parent) n) (nodes : List Node) :
    (itemsOf classOf limit ts).Cuts v parent nodes [] ↔ ts.length = nodes.length ∧
      ∀ pair ∈ ts.zip nodes, pair.1.Agrees v classOf limit.below (some parent) pair.2 := by
  induction ts generalizing nodes with
  | nil => cases nodes <;> simp [itemsOf, Items.Cuts]
  | cons t ts ihts =>
      cases nodes with
      | nil => simp [itemsOf, Items.Cuts]
      | cons n nodes =>
          have hfirst := ih t List.mem_cons_self n
          have hrest := ihts (fun u hu => ih u (List.mem_cons_of_mem t hu)) nodes
          rw [itemsOf, Items.cuts_child_cons, hrest]
          simp only [pattern] at hfirst
          rw [hfirst]
          simp only [List.length_cons, Nat.add_right_cancel_iff, List.zip_cons_cons, List.mem_cons,
            forall_eq_or_imp]
          constructor
          · rintro ⟨hagrees, hlength, hall⟩
            exact ⟨hlength, hagrees, hall⟩
          · rintro ⟨hlength, hagrees, hall⟩
            exact ⟨hagrees, hlength, hall⟩

/-- To conform to what a dump says is to agree with the dumped tree. -/
theorem conforms_pattern (t : Tree) (limit : DumpLimit) (parent? : Option Node) (n : Node) :
    (t.pattern classOf limit).Conforms v parent? n ↔ t.Agrees v classOf limit parent? n := by
  induction t using Tree.induct generalizing limit parent? n with
  | branch a ts ih =>
      have hcuts : ∀ below, (items classOf limit (.branch a ts)).CutsUnless limit.isExhausted v n
          below [] ↔ (limit.isExhausted = false → ts.length = below.length) ∧
            (limit.isExhausted = false → ∀ pair ∈ ts.zip below,
              pair.1.Agrees v classOf limit.below (some n) pair.2) := by
        intro below
        rw [items]
        cases hlimit : limit.isExhausted with
        | true => simp [Items.CutsUnless]
        | false =>
            simp only [Items.CutsUnless, Bool.false_eq_true, if_false, true_implies]
            exact cuts_itemsOf (fun t ht m => ih t ht limit.below (some n) m) below
      constructor
      · rintro ⟨⟨htype, hlinked⟩, below, hask, hitems⟩
        obtain ⟨hlength, hall⟩ := (hcuts below).mp hitems
        exact .branch htype hlinked hask hlength hall
      · intro hagrees
        cases hagrees with
        | branch htype hlinked hask hlength hall =>
            exact ⟨⟨htype, hlinked⟩, _, hask, (hcuts _).mpr ⟨hlength, hall⟩⟩

end

end Tree

/-! ## Calls of transcripts -/

namespace Replay

variable {σ : Scope} {owner type : String} {c : CursorId} {t : NodeType}

theorem ignoring?_optionsFor (ignoring : Bool) (owner? : Option String) (function : String)
    (arguments : List String) :
    Call.ignoring? ⟨owner?, function, arguments, optionsFor ignoring⟩ = some ignoring := by
  cases ignoring <;> rfl

theorem make_child (ho : σ owner = some (.cursor c)) (ht : σ type = some (.type t))
    (ignoring : Bool) : (childCall owner "child" type ignoring).make σ =
      (do return .node (← c.child ⟨t, ignoring⟩ fun _ => pure ())) := by
  simp [childCall, Call.make, Scope.lookup_of_eq ho, Scope.lookup_of_eq ht, ignoring?_optionsFor]

theorem make_childBlock (ho : σ owner = some (.cursor c)) (ht : σ type = some (.type t))
    (ignoring : Bool) : (childCall owner "child_block" type ignoring).make σ =
      (do return .block (← c.childBlock ⟨t, ignoring⟩)) := by
  simp [childCall, Call.make, Scope.lookup_of_eq ho, Scope.lookup_of_eq ht, ignoring?_optionsFor]

theorem make_root {config : Config} {n : Node} (hf : σ "match_node" = some (.matcher config))
    (hn : σ "node" = some (.node n)) (ht : σ type = some (.type t)) (ignoring : Bool) :
    (rootCall type ignoring).make σ = (do return .block (← config.matching ⟨t, ignoring⟩ n)) := by
  simp [rootCall, Call.make, Scope.lookup_of_eq hf, Scope.lookup_of_eq hn, Scope.lookup_of_eq ht,
    ignoring?_optionsFor]

/-- A call by itself, and the statements after it. -/
theorem exec_child (ho : σ owner = some (.cursor c)) (ht : σ type = some (.type t)) (ignoring : Bool)
    (rest : Suite Call) : (Suite.step (childCall owner "child" type ignoring) rest).exec σ = (do
      let _ ← c.child ⟨t, ignoring⟩ fun _ => pure ()
      rest.exec σ) := by
  simp only [Suite.exec, Executable.exec, make_child ho ht, discard_bind, bind_assoc, pure_bind]

/-- A block for a child, and the statements after it. -/
theorem exec_childBlock {S : Type} [Executable S] (ho : σ owner = some (.cursor c))
    (ht : σ type = some (.type t)) (ignoring : Bool) (name : String) (inside rest : Suite S) :
    (Suite.block (childCall owner "child_block" type ignoring) name inside rest).exec σ = (do
      let τ ← (do
        (← c.childBlock ⟨t, ignoring⟩).within fun inner => inside.exec (σ.bind name (.cursor inner)))
      rest.exec τ) := by
  rw [Suite.exec, make_childBlock ho ht, bind_assoc, bind_assoc]
  simp only [pure_bind]

end Replay

/-! ## Scripts follow patterns -/

namespace Tree

variable {classOf : Node → NodeType} {typeName : Node → String}

theorem items_eq_done {t : Tree} {limit : DumpLimit} {depth : Nat}
    (h : t.suite typeName limit depth = .done) : t.items classOf limit = .done := by
  obtain ⟨n, ts⟩ := t
  rw [suite] at h
  rw [items]
  split
  · rfl
  · next hlimit =>
      rw [if_neg hlimit] at h
      cases ts with
      | nil => rfl
      | cons t ts =>
          rw [suites] at h
          split at h <;> cases h

/-- The blocks inside a block bind the names of greater depths. -/
theorem binders_suite {t : Tree} {limit : DumpLimit} {depth : Nat} {name : String}
    (h : name ∈ (t.suite typeName limit depth).binders) :
    ∃ d, depth < d ∧ name = Transcript.plainCursorName d := by
  induction t using Tree.induct generalizing limit depth with
  | branch n ts ih =>
      rw [suite] at h
      split at h
      · cases h
      induction ts with
      | nil => cases h
      | cons t ts ihts =>
          have hrest := ihts fun u hu => ih u (List.mem_cons_of_mem t hu)
          rw [suites] at h
          split at h
          · exact hrest h
          · simp only [Suite.binders, List.mem_cons, List.mem_append] at h
            rcases h with rfl | h | h
            · exact ⟨depth + 1, Nat.lt_succ_self _, rfl⟩
            · obtain ⟨d, hd, hname⟩ := ih t List.mem_cons_self h
              exact ⟨d, by omega, hname⟩
            · exact hrest h

/-- What a script can rely on: the cursor of its depth is bound, and so are the types of all nodes that
are shown. -/
structure Readies (σ : Scope) (classOf : Node → NodeType) (typeName : Node → String) (depth : Nat)
    (c : CursorId) (shown : Node → Prop) : Prop where
  cursor : σ (Transcript.plainCursorName depth) = some (.cursor c)
  type : ∀ n, shown n → σ (typeName n) = some (.type (classOf n))
  name : ∀ n, shown n → ∀ d, typeName n ≠ Transcript.plainCursorName d

section

variable {σ τ : Scope} {limit : DumpLimit} {depth : Nat} {c d : CursorId} {shown : Node → Prop}

theorem Readies.imp (h : Readies σ classOf typeName depth c shown) (less : Node → Prop)
    (hless : ∀ n, less n → shown n) : Readies σ classOf typeName depth c less :=
  ⟨h.cursor, fun n hn => h.type n (hless n hn), fun n hn => h.name n (hless n hn)⟩

/-- A block binds the cursor of its depth. -/
theorem Readies.bind (h : Readies σ classOf typeName depth c shown) (d : CursorId) :
    Readies (σ.bind (Transcript.plainCursorName (depth + 1)) (.cursor d)) classOf typeName
      (depth + 1) d shown where
  cursor := σ.bind_self _ _
  type n hn := by rw [σ.bind_of_ne _ (h.name n hn (depth + 1)), h.type n hn]
  name := h.name

/-- After a block all is as before, but for the cursors of greater depths. -/
theorem Readies.of_exec (h : Readies σ classOf typeName depth c shown) {t : Tree} {s : Session}
    (hexec : ((t.suite typeName limit.below (depth + 1)).exec
      (σ.bind (Transcript.plainCursorName (depth + 1)) (.cursor d)) s).1 = .ok τ) :
    Readies τ classOf typeName depth c shown := by
  -- Only names of greater depths are bound, by the block and by those inside it.
  have hsame : ∀ name, (∀ d, depth < d → name ≠ Transcript.plainCursorName d) → τ name = σ name := by
    intro name hname
    have hbinders : name ∉ (t.suite typeName limit.below (depth + 1)).binders := by
      intro hmem
      obtain ⟨d, hd, heq⟩ := binders_suite hmem
      exact hname d (by omega) heq
    rw [Suite.eq_of_exec hexec hbinders, σ.bind_of_ne _ (hname (depth + 1) (Nat.lt_succ_self _))]
  refine ⟨?_, ?_, h.name⟩
  · rw [hsame _ fun d hd heq => Nat.ne_of_lt hd (plainCursorName_injective heq), h.cursor]
  · intro n hn
    rw [hsame _ fun d _ => h.name n hn d, h.type n hn]

end

/-- The statements for a tree follow what its dump says of the children. -/
theorem followsAt_exec (t : Tree) {σ : Scope} {limit : DumpLimit} {depth : Nat} {c : CursorId}
    (hσ : Readies σ classOf typeName depth c (t.Shown limit)) :
    FollowsAt c ((t.suite typeName limit depth).exec σ) (t.items classOf limit) := by
  induction t using Tree.induct generalizing σ limit depth c with
  | branch n ts ih =>
      rw [suite, items]
      cases hlimit : limit.isExhausted with
      | true => exact .pure σ
      | false =>
          simp only [Bool.false_eq_true, if_false]
          replace hσ := hσ.imp (fun m => ∃ t ∈ ts, t.Shown limit.below m) (by
            rintro m ⟨t, ht, hm⟩
            exact .child hlimit ht hm)
          -- Each child may bind names for its own statements; the names above stay bound for the next
          -- one.
          induction ts generalizing σ with
          | nil => exact .pure σ
          | cons t ts ihts =>
              have hfirst := hσ.imp (t.Shown limit.below)
                fun m hm => ⟨t, List.mem_cons_self, hm⟩
              have hrest : ∀ {τ}, Readies τ classOf typeName depth c
                  (fun m => ∃ u ∈ t :: ts, u.Shown limit.below m) →
                    FollowsAt c ((suites typeName limit depth ts).exec τ)
                      (itemsOf classOf limit ts) := by
                intro τ hτ
                refine ihts (fun u hu => ih u (List.mem_cons_of_mem t hu)) (hτ.imp _ ?_)
                rintro m ⟨u, hu, hm⟩
                exact ⟨u, List.mem_cons_of_mem t hu, hm⟩
              have htype := hfirst.type _ (t.shown_root _)
              rw [suites, itemsOf]
              split
              · -- A node with nothing to say of its children takes a call by itself.
                next hdone =>
                  rw [exec_child hσ.cursor htype, c.child_eq_within, items_eq_done hdone]
                  exact .child (fun d => .tellNode (.pure ())) (fun _ => Suite.keeps_exec _ σ)
                    fun _ _ _ _ => hrest hσ
              · rw [exec_childBlock hσ.cursor htype]
                refine .child (fun d => ih t List.mem_cons_self (hfirst.bind d))
                  (fun τ => Suite.keeps_exec _ τ) ?_
                intro τ d s hexec
                exact hrest (hσ.of_exec hexec)

end Tree

/-! ## The whole script -/

/-- A name that a type can have in a script: none of those that the script uses for anything else. -/
structure Replay.IsTypeName (name : String) : Prop where
  identifier : isIdentifier name = true
  ne_node : name ≠ "node"
  ne_function : name ≠ "match_node"
  ne_cursor : ∀ depth, name ≠ Transcript.plainCursorName depth

namespace Tree

variable {classOf : Node → NodeType} {typeName : Node → String}

/-- Running the script of a transcript on a root comes down to a block around its statements. -/
theorem replay_script {t : Tree} {limit : DumpLimit}
    (hnames : ∀ n, t.Shown limit n → IsTypeName (typeName n)) {types : String → Option NodeType}
    (htypes : ∀ n, t.Shown limit n → types (typeName n) = some (classOf n)) {c : Config}
    (hi : c.implicit = none) {root : Node} (hroot : root ≠ .absent) (s : Session) :
    ((t.script typeName limit).replay types c root s).1 = .ok () ↔
      t.Agrees (c.view s.world) classOf limit none root := by
  have htype : ∀ n, t.Shown limit n →
      Scope.start types c root (typeName n) = some (.type (classOf n)) := by
    intro n hn
    rw [Scope.start_of_ne _ _ _ (hnames n hn).ne_node (hnames n hn).ne_function, htypes n hn]
    rfl
  -- Inside the block of the root the statements follow the pattern of the tree.
  have hbody : Follows (fun cursor => (t.suite typeName limit 0).orPass.exec
      ((Scope.start types c root).bind (Transcript.plainCursorName 0) (.cursor cursor)))
        (t.items classOf limit) := by
    intro cursor
    show FollowsAt cursor ((t.suite typeName limit 0).orPass.exec _) _
    rw [Suite.exec_orPass]
    refine t.followsAt_exec ⟨Scope.bind_self .., ?_, fun n hn => (hnames n hn).ne_cursor⟩
    intro n hn
    rw [Scope.bind_of_ne _ _ ((hnames n hn).ne_cursor 0), htype n hn]
  have hb := s.block?_freshBlock (c.rootBlock (t.pattern classOf limit).expected [] root)
  have hvisited := BlockId.visited hbody hb rfl (.root rfl)
    (Config.awaits_rootBlock hi ..)
  have hrun : (t.script typeName limit).exec (Scope.start types c root) s =
      s.freshBlock.within (fun cursor => (t.suite typeName limit 0).orPass.exec
        ((Scope.start types c root).bind (Transcript.plainCursorName 0) (.cursor cursor)))
          (s.addBlock (c.rootBlock (t.pattern classOf limit).expected [] root)) := by
    rw [script, Suite.exec, make_root (Scope.start_function ..)
      (Scope.start_node ..) (htype _ (t.shown_root limit)), bind_assoc, bind_apply,
      Config.matching_apply hroot, andThen_ok]
    simp only [pure_bind, Suite.exec, bind_pure]
    rfl
  rw [← t.conforms_pattern, Suite.replay_eq_ok_iff, hrun]
  rcases hwithin : s.freshBlock.within (fun cursor => (t.suite typeName limit 0).orPass.exec
      ((Scope.start types c root).bind (Transcript.plainCursorName 0) (.cursor cursor)))
        (s.addBlock (c.rootBlock (t.pattern classOf limit).expected [] root)) with ⟨outcome, u⟩
  rw [hwithin] at hvisited
  cases hvisited with
  | conforms hconforms => exact iff_of_true ⟨_, rfl⟩ hconforms
  | failed hverdict => exact iff_of_false (by simp) hverdict.not_conforms

/-- The dump of a finite tree reads as a script, and the script succeeds on just those trees that agree
with the dumped one down to the limit.  The height that views give to trees is no restriction for the usual
adapters, `Adapter.isBounded_view`. -/
theorem dump_exact {a : Adapter} {w : World} (ha : (a.view w).IsBounded) {t : Tree}
    (ht : t.ShownBy (a.view w)) (serial : Nat) {indent : Nat} (hindent : 1 ≤ indent) (limit : DumpLimit)
    (hnames : ∀ n, t.Shown limit n → IsTypeName (w.typeNameOf n)) :
    ∃ text script,
      (Printer.transcript serial a fun w => Transcript.plain indent w.typeNameOf).render w t.root limit =
        .ok text ∧
      Replay.read text = some script ∧
      ∀ types : String → Option NodeType,
        (∀ n, t.Shown limit n → types (w.typeNameOf n) = some (w.typeOf n)) →
        ∀ c : Config, c.implicit = none → ∀ (s : Session) (root : Node), root ≠ .absent →
          ((script.replay types c root s).1 = .ok () ↔
            t.Agrees (c.view s.world) w.typeOf limit none root) := by
  refine ⟨_, _, ht.render_transcript (ha t ht) serial indent limit,
    read_transcript hindent t limit fun n hn => (hnames n hn).identifier, ?_⟩
  intro types htypes c hi s root hroot
  exact replay_script hnames htypes hi hroot s

/-- The pair with its two leaves. -/
def sample : Tree := .branch Sample.root [.branch Sample.left [], .branch Sample.right []]

/-- The types of the sample by their names. -/
def sampleTypes (name : String) : Option NodeType :=
  if name = "Pair" then some Sample.pair else if name = "Leaf" then some Sample.leaf else none

theorem shownBy_sample : sample.ShownBy (Sample.adapter.view Sample.world) := by
  refine .branch rfl ?_
  intro t ht
  simp only [List.mem_cons, List.not_mem_nil, or_false] at ht
  rcases ht with rfl | rfl
  · exact .branch rfl (by simp)
  · exact .branch rfl (by simp)

theorem shown_sample {n : Node} (h : sample.Shown none n) :
    n = Sample.root ∨ n = Sample.left ∨ n = Sample.right := by
  cases h with
  | root => exact .inl rfl
  | child _ ht h =>
      simp only [List.mem_cons, List.not_mem_nil, or_false] at ht
      rcases ht with rfl | rfl
      · cases h with
        | root => exact .inr (.inl rfl)
        | child _ ht _ => cases ht
      · cases h with
        | root => exact .inr (.inr rfl)
        | child _ ht _ => cases ht

theorem agrees_sample : sample.Agrees (Sample.config.view Sample.world) Sample.world.typeOf none none
    Sample.root := by
  refine .branch rfl rfl rfl (fun _ => rfl) ?_
  intro _ pair hpair
  have hpair' : pair ∈ [(branch Sample.left [], Sample.left), (branch Sample.right [], Sample.right)] :=
    hpair
  simp only [List.mem_cons, List.not_mem_nil, or_false] at hpair'
  rcases hpair' with rfl | rfl
  · exact .branch rfl rfl rfl (fun _ => rfl) (by simp)
  · exact .branch rfl rfl rfl (fun _ => rfl) (by simp)

/-- The dump of the sample matches the sample. -/
theorem dump_exact_sample :
    (∀ n, sample.Shown none n → IsTypeName (Sample.world.typeNameOf n)) ∧
    ∃ text script, (Printer.transcript 0 Sample.adapter fun w =>
        Transcript.plain 4 w.typeNameOf).render Sample.world Sample.root none = .ok text ∧
      Replay.read text = some script ∧
      (script.replay sampleTypes Sample.config Sample.root Sample.session).1 = .ok () := by
  have hpair : IsTypeName "Pair" := ⟨by decide, by decide, by decide, ne_plainCursorName (by decide)⟩
  have hleaf : IsTypeName "Leaf" := ⟨by decide, by decide, by decide, ne_plainCursorName (by decide)⟩
  have hnames : ∀ n, sample.Shown none n → IsTypeName (Sample.world.typeNameOf n) := by
    intro n hn
    rcases shown_sample hn with rfl | rfl | rfl
    · exact hpair
    · exact hleaf
    · exact hleaf
  have htypes : ∀ n, sample.Shown none n →
      sampleTypes (Sample.world.typeNameOf n) = some (Sample.world.typeOf n) := by
    intro n hn
    rcases shown_sample hn with rfl | rfl | rfl <;> rfl
  obtain ⟨text, script, htext, hread, hexact⟩ := dump_exact
    (Adapter.isBounded_view (.downward "sample" {}) Sample.world) shownBy_sample 0 (show 1 ≤ 4 by decide) none hnames
  refine ⟨hnames, text, script, htext, hread, ?_⟩
  exact (hexact sampleTypes htypes Sample.config rfl Sample.session Sample.root (by decide)).mpr
    agrees_sample

end Tree

end TreeShape
