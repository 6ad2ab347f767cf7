import TreeShape.Proofs.Attributes.Running
import TreeShape.Proofs.Replay.Exactness

/-!
# Dumps of attributes are scripts

The dump of the attributes of a tree reads as a script, `Tree.auditScript`: in the block of each node
first the assertions about its attributes, then one block or call for each child, each with an assertion
behind it if an attribute holds the child.  A node has a block if there is anything to say inside of it;
a child without a block that an attribute holds is bound to the name that its cursor would have had.

`World.IsLegible` collects what a script relies on: that nodes are candid, that the names of types stand
for them and for nothing else, and that literals read back.

The text is printed in one piece and the script is a tree, so reading goes line by line first and by
indentation second.  `ReadAs` says of printed lines what they read as, and the lemmas
`readAs_childLines`, `readAs_assertions` and `readAs_children` follow the printer; that the lines of a
script, each block indented, are grouped to the script again is `suite?_lines`.  It asks that no block
is empty, and the printer writes `pass` where there would be nothing.
-/

namespace TreeShape

open Replay

namespace Audit

/-! ## The script of a dump -/

/-- What a dump says of nodes beside the structure. -/
structure Notes where
  typeName : Node → String
  /-- The attributes that are asserted, with their values. -/
  told : Node → List (String × Value)
  operand : Value → Operand
  /-- The access that holds the child of a node at a position. -/
  holder : Node → Nat → Option Access

/-- The assertions about the node of a cursor. -/
def Notes.claims (notes : Notes) (cursor : String) (n : Node) : List Statement :=
  (notes.told n).map fun e =>
    .claim ⟨⟨cursor, ["node", e.1], none⟩, e.2.isIdentified, notes.operand e.2⟩

/-- The assertion that the node of a cursor holds a child. -/
def holderClaim (cursor : String) (access : Access) (child : Path) : Statement :=
  .claim ⟨⟨cursor, ["node", access.name], access.index⟩, true, .path child⟩

/-- The statements for a child, given those in its block, and the statements behind them. -/
def childSuite (depth : Nat) (type : String) (ignoring : Bool) (holder : Option Access)
    (inside rest : Suite Statement) : Suite Statement :=
  let outer := Transcript.plainCursorName depth
  let inner := Transcript.plainCursorName (depth + 1)
  match inside, holder with
  | .done, none => .step (.call (childCall outer "child" type ignoring)) rest
  | .done, some access =>
    .step (.bind inner (childCall outer "child" type ignoring))
      (.step (holderClaim outer access ⟨inner, [], none⟩) rest)
  | inside, holder =>
    .block (childCall outer "child_block" type ignoring) inner inside
      (.after (holder.toList.map fun access => holderClaim outer access ⟨inner, ["node"], none⟩) rest)

end Audit

open Audit

namespace Tree

mutual

/-- The statements in the block of a node at a depth. -/
def audit (notes : Notes) (limit : DumpLimit) (depth : Nat) : Tree → Suite Statement
  | .branch n ts =>
    .after (notes.claims (Transcript.plainCursorName depth) n)
      (if limit.isExhausted then .done else audits notes limit depth n 0 ts)

/-- The statements for the children of a node, from a position on. -/
def audits (notes : Notes) (limit : DumpLimit) (depth : Nat) (parent : Node) (position : Nat) :
    List Tree → Suite Statement
  | [] => .done
  | t :: ts =>
    childSuite depth (notes.typeName t.root) limit.below.isExhausted (notes.holder parent position)
      (audit notes limit.below (depth + 1) t) (audits notes limit depth parent (position + 1) ts)

end

/-- The script that a dump of the attributes of the tree reads as. -/
def auditScript (notes : Notes) (limit : DumpLimit) (t : Tree) : Suite Statement :=
  .block (rootCall (notes.typeName t.root) limit.isExhausted) (Transcript.plainCursorName 0)
    (t.audit notes limit 0).orPass .done

end Tree

/-! ## What scripts rely on -/

namespace AttributeDump

/-- What the dump of a world says, given how literals are read. -/
def notes (literals : String → Option Value) (w : World) (v : View) : Notes where
  typeName := w.typeNameOf
  told := told w
  operand u := ((u.literal? w.hierarchy).bind (operand? literals)).getD (.literal .nothing)
  holder n := holder? (plain w.hierarchy) w (v.children n) n

end AttributeDump

/-- A script can say what a dump says of the node: the node is candid, the names of its type and of the types
that its literals mention are bound to them and are used for nothing else, and its literals read back.  Where
an infinite float is told, no type has the name of the function that makes it. -/
structure World.IsLegible (w : World) (literals : String → Option Value)
    (types : String → Option NodeType) (n : Node) : Prop where
  candid : w.IsCandid n
  typeName : IsTypeName (w.typeNameOf n)
  type : types (w.typeNameOf n) = some (w.typeOf n)
  mentionedName : ∀ e ∈ AttributeDump.told w n, ∀ t, e.2.mentioned? = some t →
    IsTypeName (w.hierarchy.qualifiedName t)
  mentioned : ∀ e ∈ AttributeDump.told w n, ∀ t, e.2.mentioned? = some t →
    types (w.hierarchy.qualifiedName t) = some t
  readsBack : ∀ e ∈ AttributeDump.told w n, e.2.ReadsBack literals w.hierarchy
  infinite : ∀ e ∈ AttributeDump.told w n, ∀ negative, e.2 = .float (.infinite negative) →
    types floatName = none

section

variable {literals : String → Option Value} {types : String → Option NodeType} {w : World} {v : View}
  {n : Node} {e : String × Value}

theorem AttributeDump.mem_of_mem_told (he : e ∈ told w n) :
    e ∈ attributesOf (plain w.hierarchy) w n ∧ ∃ text, e.2.literal? w.hierarchy = some text := by
  obtain ⟨hmem, hliteral⟩ := List.mem_filter.mp he
  exact ⟨hmem, Option.isSome_iff_exists.mp hliteral⟩

/-- The literal of an attribute that is told stands on one line, and is read as an operand that means the
value. -/
theorem World.IsLegible.reads_operand (h : w.IsLegible literals types n)
    (he : e ∈ AttributeDump.told w n) {text : String} (htext : e.2.literal? w.hierarchy = some text) :
    '\n' ∉ text.toList ∧
      operand? literals text = some ((AttributeDump.notes literals w v).operand e.2) ∧
      ((AttributeDump.notes literals w v).operand e.2).Means w.hierarchy e.2 := by
  obtain ⟨hmem, -⟩ := AttributeDump.mem_of_mem_told he
  obtain ⟨hwhole, o, ho, hmeans⟩ := Value.reads_literal (h.candid.tellable e hmem)
    (fun t ht => (h.mentionedName e he t ht).identifier) (h.readsBack e he) htext
  have heq : (AttributeDump.notes literals w v).operand e.2 = o := by
    simp [AttributeDump.notes, htext, ho]
  exact ⟨hwhole, heq ▸ ho, heq ▸ hmeans⟩

end

/-! ## Reading the statements of a block -/

namespace Audit

/-- How a path from the node of a cursor is written. -/
theorem text_access (cursor : String) (access : Access) :
    (⟨cursor, ["node", access.name], access.index⟩ : Path).text =
      cursor ++ ".node." ++ access.text := by
  have hnode : ".node." = "." ++ ("node" ++ ".") := by decide
  simp only [Path.text, List.foldl_cons, List.foldl_nil, Access.text, hnode, String.append_assoc]

variable {literals : String → Option Value} {indent : Nat} {type : String}

theorem isNamed_access {cursor : String} (hcursor : isIdentifier cursor = true) {access : Access}
    (haccess : isIdentifier access.name = true) :
    (⟨cursor, ["node", access.name], access.index⟩ : Path).IsNamed := by
  refine ⟨hcursor, ?_⟩
  have hnode : isIdentifier "node" = true := by decide
  simp [hnode, haccess]

/-- The assertion that a node holds a child. -/
theorem reads_identity {cursor : String} (hcursor : isIdentifier cursor = true) {access : Access}
    (haccess : isIdentifier access.name = true) {child : Path} (hchild : child.IsNamed) :
    Reads literals (Transcript.plainIdentity cursor access.text child.text)
      [⟨0, .statement (holderClaim cursor access child)⟩] := by
  have hreads : Reads literals _ _ := reads_claim (isNamed_access hcursor haccess) true
    (operand?_path hchild) (Path.not_mem_text hchild (.inr rfl))
  rw [text_access] at hreads
  simp only [Transcript.plainIdentity, ← String.append_assoc] at hreads ⊢
  exact hreads

/-- The assertion about an attribute. -/
theorem reads_plainAssertion {cursor : String} (hcursor : isIdentifier cursor = true)
    {e : String × Value} (he : isIdentifier e.1 = true) {text : String} (hwhole : '\n' ∉ text.toList)
    {o : Operand} (ho : operand? literals text = some o) :
    Reads literals (AttributeDump.plainAssertion cursor e.1 e.2 text)
      [⟨0, .statement (.claim ⟨⟨cursor, ["node", e.1], none⟩, e.2.isIdentified, o⟩)⟩] := by
  have hnamed := @isNamed_access cursor hcursor ⟨e.1, none⟩ he
  have hreads := reads_claim hnamed e.2.isIdentified ho hwhole
  have htext := text_access cursor ⟨e.1, none⟩
  simp only [Access.text, Option.map_none, Option.getD_none, String.append_empty] at htext
  rw [htext] at hreads
  simp only [AttributeDump.plainAssertion, ← String.append_assoc] at hreads ⊢
  exact hreads

/-- What says that a child is held, if it is. -/
theorem readAs_held {cursor : String} (hcursor : isIdentifier cursor = true) {holder : Option Access}
    (hholder : ∀ access, holder = some access → isIdentifier access.name = true) {child : Path}
    (hchild : child.IsNamed) :
    ReadAs literals ((holder.map Access.text).map fun access =>
        Transcript.plainIdentity cursor access child.text).toList
      ((holder.toList.map fun access => holderClaim cursor access child).map
        fun s => ⟨0, .statement s⟩) := by
  cases holder with
  | none => exact .nil
  | some access => exact .singleton (reads_identity hcursor (hholder access rfl) hchild)

/-- The statements for a child, and those behind them. -/
theorem readAs_childLines {style : Transcript.Style} {depth : Nat} {child : Node} {ignoring : Bool}
    {holder : Option Access} {texts more : List String} {inside rest : Suite Statement}
    (hindent : style.indent = indent) (hcursor : style.cursorName = Transcript.plainCursorName)
    (hidentity : style.identity = Transcript.plainIdentity)
    (htype : isIdentifier (style.typeExpression child) = true)
    (hholder : ∀ access, holder = some access → isIdentifier access.name = true)
    (htexts : ReadAs literals texts (inside.lines indent)) (hnil : texts = [] ↔ inside = .done)
    (hmore : ReadAs literals more (rest.lines indent)) :
    ReadAs literals
      (Transcript.childLines style depth child ignoring (holder.map Access.text) texts ++ more)
      ((childSuite depth (style.typeExpression child) ignoring holder inside rest).lines indent) := by
  have houter := isIdentifier_plainCursorName depth
  have hnamed : (⟨Transcript.plainCursorName (depth + 1), [], none⟩ : Path).IsNamed :=
    ⟨isIdentifier_plainCursorName (depth + 1), by simp⟩
  have htext : (⟨Transcript.plainCursorName (depth + 1), [], none⟩ : Path).text =
      Transcript.plainCursorName (depth + 1) := String.append_empty ..
  -- Without lines inside, the child is matched by a call, which binds a name only for its holder.
  cases texts with
  | nil =>
      obtain rfl := hnil.mp rfl
      cases holder with
      | none =>
          simp only [Transcript.childLines, Option.map_none, hcursor]
          exact .cons (reads_call htype depth ignoring) hmore
      | some access =>
          have hheld : Reads literals _ _ := reads_identity houter (hholder access rfl) hnamed
          rw [htext] at hheld
          simp only [Transcript.childLines, Option.map_some, hcursor, hidentity]
          exact .cons (reads_bind htype depth ignoring) (.cons hheld hmore)
  | cons text texts =>
      have hheader : Reads literals _ _ := reads_childBlock htype depth ignoring
      have hnode : ((⟨Transcript.plainCursorName (depth + 1), [], none⟩ : Path).attr "node").text =
          Transcript.plainCursorName (depth + 1) ++ ".node" := by
        rw [Path.text_attr rfl, htext, String.append_assoc]
        rfl
      have hheld : ReadAs literals _ _ :=
        readAs_held houter hholder (hnamed.attr (by decide : isIdentifier "node" = true))
      rw [hnode] at hheld
      have hall := (ReadAs.cons hheader (htexts.indent indent)).append (hheld.append hmore)
      have hinside : inside ≠ .done := fun hdone => List.cons_ne_nil text texts (hnil.mpr hdone)
      cases inside with
      | done => exact absurd rfl hinside
      | _ =>
          simp only [Transcript.childLines, hcursor, hidentity, hindent, childSuite, Suite.lines,
            Suite.lines_after, List.append_assoc, List.cons_append] at hall ⊢
          exact hall

variable {depth : Nat} {ignoring : Bool} {holder : Option Access} {inside rest : Suite Statement}

theorem childSuite_ne_done : childSuite depth type ignoring holder inside rest ≠ .done := by
  unfold childSuite
  split <;> nofun

theorem isFull_childSuite (hinside : inside.IsFull) (hrest : rest.IsFull) :
    (childSuite depth type ignoring holder inside rest).IsFull := by
  cases inside with
  | done => cases holder <;> exact hrest
  | _ => exact ⟨nofun, hinside, hrest.after⟩

/-- An empty line in front of a child says nothing. -/
theorem readAs_gap (asserted : Bool) (position : Nat) (holder : Option String) :
    ReadAs literals (Transcript.gap asserted position holder) [] := by
  unfold Transcript.gap
  split
  · exact .singleton reads_blank
  · exact .nil

end Audit

section

variable {literals : String → Option Value} {types : String → Option NodeType} {w : World} {v : View}
  {indent : Nat}

/-- The assertions about a node read as its claims. -/
private theorem readAs_assertions (indent : Nat) {n : Node} (h : w.IsLegible literals types n) (depth : Nat) :
    ReadAs literals
        (((AttributeDump.usual indent w v).assertions n (Transcript.plainCursorName depth)).flatMap
          Text.lines)
        (((AttributeDump.notes literals w v).claims (Transcript.plainCursorName depth) n).map
          fun s => ⟨0, .statement s⟩) ∧
      (((AttributeDump.usual indent w v).assertions n (Transcript.plainCursorName depth)).flatMap
        Text.lines = [] ↔
          (AttributeDump.notes literals w v).claims (Transcript.plainCursorName depth) n = []) := by
  have hassertions : (AttributeDump.usual indent w v).assertions n (Transcript.plainCursorName depth) =
      (AttributeDump.told w n).map fun e => AttributeDump.plainAssertion
        (Transcript.plainCursorName depth) e.1 e.2 ((e.2.literal? w.hierarchy).getD "") :=
    AttributeDump.assertions_eq ..
  have htold : (AttributeDump.notes literals w v).told n = AttributeDump.told w n := rfl
  have hreads : ∀ e ∈ AttributeDump.told w n, Reads literals
      (AttributeDump.plainAssertion (Transcript.plainCursorName depth) e.1 e.2
        ((e.2.literal? w.hierarchy).getD ""))
      [⟨0, .statement (.claim ⟨⟨Transcript.plainCursorName depth, ["node", e.1], none⟩,
        e.2.isIdentified, (AttributeDump.notes literals w v).operand e.2⟩)⟩] := by
    intro e he
    obtain ⟨hmem, text, htext⟩ := AttributeDump.mem_of_mem_told he
    obtain ⟨hwhole, hoperand, -⟩ := h.reads_operand (v := v) he htext
    rw [htext]
    exact reads_plainAssertion (isIdentifier_plainCursorName depth) (h.candid.named e hmem) hwhole
      hoperand
  rw [hassertions, Notes.claims, htold]
  -- From here on only the single lines count, not where they come from.
  generalize AttributeDump.told w n = told at hreads
  induction told with
  | nil => exact ⟨.nil, iff_of_true rfl rfl⟩
  | cons e told ih =>
      have hfirst := hreads e List.mem_cons_self
      obtain ⟨hrest, -⟩ := ih fun e' he' => hreads e' (List.mem_cons_of_mem e he')
      have hline := Text.lines_join (List.cons_ne_nil _ [])
        (List.forall_mem_singleton.mpr hfirst.whole)
      rw [Text.join] at hline
      rw [List.map_cons, List.flatMap_cons, hline]
      exact ⟨.cons hfirst hrest, iff_of_false (List.cons_ne_nil _ _) (List.cons_ne_nil _ _)⟩

/-- The statements for the children of a node read as their part of the script. -/
private theorem readAs_children {n : Node} (hn : w.IsLegible literals types n) {limit : DumpLimit}
    {depth : Nat} {ts : List Tree}
    (ih : ∀ t ∈ ts,
      ReadAs literals (Transcript.body (AttributeDump.usual indent w v) limit.below (depth + 1) t)
          ((t.audit (AttributeDump.notes literals w v) limit.below (depth + 1)).lines indent) ∧
        (Transcript.body (AttributeDump.usual indent w v) limit.below (depth + 1) t = [] ↔
          t.audit (AttributeDump.notes literals w v) limit.below (depth + 1) = .done))
    (hnames : ∀ t ∈ ts, isIdentifier (w.typeNameOf t.root) = true) (asserted : Bool)
    (position : Nat) :
    ReadAs literals
        (Transcript.children (AttributeDump.usual indent w v) limit depth n
          ((AttributeDump.usual indent w v).holders n) asserted position ts)
        ((Tree.audits (AttributeDump.notes literals w v) limit depth n position ts).lines indent) ∧
      (Transcript.children (AttributeDump.usual indent w v) limit depth n
          ((AttributeDump.usual indent w v).holders n) asserted position ts = [] ↔
        Tree.audits (AttributeDump.notes literals w v) limit depth n position ts = .done) := by
  induction ts generalizing position with
  | nil => exact ⟨.nil, iff_of_true rfl rfl⟩
  | cons t ts ihts =>
      obtain ⟨hmore, -⟩ := ihts (fun u hu => ih u (List.mem_cons_of_mem t hu))
        (fun u hu => hnames u (List.mem_cons_of_mem t hu)) (position + 1)
      obtain ⟨htexts, hnil⟩ := ih t List.mem_cons_self
      have hlookup : ((AttributeDump.usual indent w v).holders n).lookup (position : Int) =
          ((AttributeDump.notes literals w v).holder n position).map Access.text :=
        AttributeDump.lookup_holders ..
      have hholder : ∀ access, (AttributeDump.notes literals w v).holder n position = some access →
          isIdentifier access.name = true :=
        fun access haccess => (hn.candid.readAccess_of_holder? haccess).1
      have hreplacement : (AttributeDump.usual indent w v).replacement n t.root
          ((AttributeDump.usual indent w v).cursorName depth) = none := rfl
      rw [Transcript.children, Tree.audits, hreplacement, hlookup]
      dsimp only
      rw [List.append_assoc]
      refine ⟨(readAs_gap _ _ _).append (readAs_childLines rfl rfl rfl (hnames t List.mem_cons_self)
        hholder htexts hnil hmore), iff_of_false ?_ childSuite_ne_done⟩
      -- Whatever the place, a child has a line of its own.
      intro happend
      have hnone := (List.append_eq_nil_iff.mp (List.append_eq_nil_iff.mp happend).2).1
      unfold Transcript.childLines at hnone
      split at hnone <;> cases hnone

/-- The statements in the block of a node read as its script. -/
theorem readAs_body (indent : Nat) (t : Tree) {limit : DumpLimit}
    (hlegible : ∀ n, t.Shown limit n → w.IsLegible literals types n) (depth : Nat) :
    ReadAs literals (Transcript.body (AttributeDump.usual indent w v) limit depth t)
        ((t.audit (AttributeDump.notes literals w v) limit depth).lines indent) ∧
      (Transcript.body (AttributeDump.usual indent w v) limit depth t = [] ↔
        t.audit (AttributeDump.notes literals w v) limit depth = .done) := by
  induction t using Tree.induct generalizing limit depth with
  | branch n ts ih =>
      obtain ⟨hclaims, hnone⟩ := readAs_assertions (v := v) indent (hlegible n .root) depth
      rw [Transcript.body, Tree.audit, Suite.lines_after, Suite.after_eq_done, List.append_eq_nil_iff]
      cases hlimit : limit.isExhausted with
      | true => exact ⟨hclaims.append .nil, and_congr hnone (iff_of_true rfl rfl)⟩
      | false =>
          have hchild : ∀ t ∈ ts, ∀ m, t.Shown limit.below m → w.IsLegible literals types m :=
            fun t ht m hm => hlegible m (.child hlimit ht hm)
          obtain ⟨hrest, hnil⟩ := readAs_children (v := v) (hlegible n .root)
            (fun t ht => ih t ht (hchild t ht) (depth + 1))
            (fun t ht => (hchild t ht _ (t.shown_root _)).typeName.identifier)
            (!((AttributeDump.usual indent w v).assertions n
              (Transcript.plainCursorName depth)).isEmpty) 0
          exact ⟨hclaims.append hrest, and_congr hnone hnil⟩

/-! ## Reading the whole dump -/

/-- No block of the script is empty. -/
theorem isFull_audit (notes : Notes) (t : Tree) (limit : DumpLimit) (depth : Nat) :
    (t.audit notes limit depth).IsFull := by
  induction t using Tree.induct generalizing limit depth with
  | branch n ts ih =>
      rw [Tree.audit]
      apply Suite.IsFull.after
      split
      · trivial
      · generalize 0 = position
        induction ts generalizing position with
        | nil => trivial
        | cons t ts ihts =>
            exact isFull_childSuite (ih t List.mem_cons_self limit.below (depth + 1))
              (ihts (fun u hu => ih u (List.mem_cons_of_mem t hu)) (position + 1))

/-- What stands in a block, or `pass`, reads as that. -/
private theorem readAs_orPass {texts : List String} {inside : Suite Statement}
    (htexts : ReadAs literals texts (inside.lines indent)) (hnil : texts = [] ↔ inside = .done) :
    ReadAs literals (if texts.isEmpty then ["pass"] else texts) (inside.orPass.lines indent) := by
  cases texts with
  | nil =>
      rw [hnil.mp rfl]
      exact .singleton reads_pass
  | cons text texts =>
      cases inside with
      | done => exact absurd (hnil.mpr rfl) (List.cons_ne_nil text texts)
      | _ => exact htexts

/-- The dump of the attributes of a tree reads as its script. -/
theorem read_attributes (hindent : 0 < indent) (t : Tree) (limit : DumpLimit)
    (hlegible : ∀ n, t.Shown limit n → w.IsLegible literals types n) :
    Audit.read literals (Transcript.render (AttributeDump.usual indent w v) limit t) =
      some (t.auditScript (AttributeDump.notes literals w v) limit) := by
  obtain ⟨htexts, hnil⟩ := readAs_body (v := v) indent t hlegible 0
  have hheader : Reads literals _ _ := reads_root
    (hlegible _ (t.shown_root limit)).typeName.identifier limit.isExhausted
  have hlines : ReadAs literals (Transcript.lines (AttributeDump.usual indent w v) limit t)
      ((t.auditScript (AttributeDump.notes literals w v) limit).lines indent) := by
    rw [Tree.auditScript, Suite.lines, Suite.lines, List.append_nil]
    exact .cons hheader ((readAs_orPass htexts hnil).indent indent)
  have hfull : (t.auditScript (AttributeDump.notes literals w v) limit).IsFull :=
    ⟨Suite.orPass_ne_done _, (isFull_audit _ t limit 0).orPass, trivial⟩
  rw [Transcript.render, hlines.read_join (List.cons_ne_nil _ _), suite?_lines hindent hfull]

end

end TreeShape
