import TreeShape.Printer.Basic
import TreeShape.Proofs.Replay.Spelling

/-!
# Transcripts are scripts

The transcript of a tree in the plain style reads as a script, `Tree.script`: a block for each node that
has something below it, and a call for each of the others, down to the limit.  All that is asked of the
names of the types is that they are names.

The lines are read one by one, `lines?_body`, and then grouped to blocks by how far they are indented,
`suite?_lines`; the text is cut into these lines again because no line that reads has a line feed in it,
`newline_not_mem_of_line?`.
-/

namespace TreeShape

open Replay

/-- What holds of a tree if it holds of those below its root holds of all trees. -/
@[elab_as_elim]
theorem Tree.induct {motive : Tree → Prop}
    (branch : ∀ n ts, (∀ t ∈ ts, motive t) → motive (.branch n ts)) : ∀ t, motive t
  | .branch n ts => branch n ts fun t _ => Tree.induct branch t

/-! ## What a dump shows -/

/-- A dump of the tree with a limit shows the node. -/
inductive Tree.Shown : DumpLimit → Tree → Node → Prop
  | root {limit : DumpLimit} {n : Node} {ts : List Tree} : Shown limit (.branch n ts) n
  | child {limit : DumpLimit} {n m : Node} {ts : List Tree} {t : Tree} :
      limit.isExhausted = false → t ∈ ts → Shown limit.below t m → Shown limit (.branch n ts) m

theorem Tree.shown_root (t : Tree) (limit : DumpLimit) : t.Shown limit t.root := by
  cases t
  exact .root

mutual

/-- The statements in the block of a node at a depth. -/
def Tree.suite (typeName : Node → String) (limit : DumpLimit) (depth : Nat) : Tree → Suite Call
  | .branch _ ts => if limit.isExhausted then .done else suites typeName limit depth ts

/-- The statements for several children. -/
def Tree.suites (typeName : Node → String) (limit : DumpLimit) (depth : Nat) : List Tree → Suite Call
  | [] => .done
  | t :: ts =>
    let outer := Transcript.plainCursorName depth
    let rest := suites typeName limit depth ts
    match suite typeName limit.below (depth + 1) t with
    | .done => .step (childCall outer "child" (typeName t.root) limit.below.isExhausted) rest
    | inside =>
      .block (childCall outer "child_block" (typeName t.root) limit.below.isExhausted)
        (Transcript.plainCursorName (depth + 1)) inside rest

end

/-- The script that a transcript of the tree reads as. -/
def Tree.script (typeName : Node → String) (limit : DumpLimit) (t : Tree) : Suite Call :=
  .block (rootCall (typeName t.root) limit.isExhausted) (Transcript.plainCursorName 0)
    (t.suite typeName limit 0).orPass .done

/-! ## The names of cursors -/

/-- Numbers are told apart by how they are written. -/
theorem eq_of_toString_eq {i j : Nat} (h : toString i = toString j) : i = j := by
  have hdigits : Nat.toDigits 10 i = Nat.toDigits 10 j := by
    simpa [toString, Nat.repr] using congrArg String.toList h
  calc i = Nat.ofDigitChars 10 (Nat.toDigits 10 i) 0 := Nat.ofDigitChars_ten_toDigits.symm
    _ = Nat.ofDigitChars 10 (Nat.toDigits 10 j) 0 := by rw [hdigits]
    _ = j := Nat.ofDigitChars_ten_toDigits

theorem exists_plainCursorName_eq (depth : Nat) : ∃ digits : List Char,
    (Transcript.plainCursorName depth).toList = 'i' :: 't' :: digits ∧
      ∀ c ∈ digits, c.isDigit = true := by
  unfold Transcript.plainCursorName
  split
  · exact ⟨[], by decide, by simp⟩
  · have hit : "it".toList = ['i', 't'] := by decide
    exact ⟨(toString depth).toList, by rw [String.toList_append, hit]; rfl,
      fun _ => Text.isDigit_of_mem_toString⟩

/-- Names that start in another way are no names of cursors. -/
theorem ne_plainCursorName {name : String} (h : ¬ ['i', 't'] <+: name.toList) (depth : Nat) :
    name ≠ Transcript.plainCursorName depth := by
  obtain ⟨digits, hlist, -⟩ := exists_plainCursorName_eq depth
  rintro rfl
  exact h ⟨digits, hlist.symm⟩

theorem isIdentifier_plainCursorName (depth : Nat) :
    isIdentifier (Transcript.plainCursorName depth) = true := by
  -- No keyword starts as the names of cursors do.
  have hkeywords : ∀ word ∈ keywords, ¬ ['i', 't'] <+: word.toList := by decide
  obtain ⟨digits, hlist, hdigits⟩ := exists_plainCursorName_eq depth
  have hword : ∀ c ∈ 'i' :: 't' :: digits, Syntax.isWordChar c = true := by
    intro c hc
    rcases List.mem_cons.mp hc with rfl | hc
    · decide
    rcases List.mem_cons.mp hc with rfl | hc
    · decide
    · simp [Syntax.isWordChar, Char.isAlphanum, hdigits c hc]
  have hnot : Transcript.plainCursorName depth ∉ keywords :=
    fun hmem => ne_plainCursorName (hkeywords _ hmem) depth rfl
  simp only [isIdentifier, hlist, Bool.and_eq_true, List.all_eq_true, Bool.not_eq_true',
    List.contains_eq_mem, decide_eq_false_iff_not]
  exact ⟨⟨by decide, hword⟩, hnot⟩

theorem plainCursorName_injective {i j : Nat}
    (h : Transcript.plainCursorName i = Transcript.plainCursorName j) : i = j := by
  have hdigits : ∀ n : Nat, "it" ≠ "it" ++ toString n := by
    intro n heq
    have hlength := congrArg String.length heq
    rw [String.length_append] at hlength
    have hpos : 0 < (toString n).length := Nat.length_repr_pos
    omega
  unfold Transcript.plainCursorName at h
  split at h <;> split at h
  · omega
  · exact absurd h (hdigits j)
  · exact absurd h.symm (hdigits i)
  · exact eq_of_toString_eq ((String.append_right_inj "it").mp h)

/-! ## Reading the statements of a block -/

section

variable {indent : Nat} {typeName : Node → String}

/-- The statements for children, in the plain style. -/
theorem children_plain_cons (limit : DumpLimit) (depth : Nat) (parent : Node) (position : Nat)
    (t : Tree) (ts : List Tree) :
    Transcript.children (Transcript.plain indent typeName) limit depth parent [] false position
        (t :: ts) =
      Transcript.childLines (Transcript.plain indent typeName) depth t.root
          limit.below.isExhausted none
          (Transcript.body (Transcript.plain indent typeName) limit.below (depth + 1) t) ++
        Transcript.children (Transcript.plain indent typeName) limit depth parent [] false
          (position + 1) ts := by
  rw [Transcript.children]
  simp [Transcript.plain, Transcript.gap]

theorem body_plain (limit : DumpLimit) (depth : Nat) (n : Node) (ts : List Tree) :
    Transcript.body (Transcript.plain indent typeName) limit depth (.branch n ts) =
      if limit.isExhausted then [] else
        Transcript.children (Transcript.plain indent typeName) limit depth n [] false 0 ts := by
  rw [Transcript.body]
  simp [Transcript.plain]

/-- The statements for a child read as one statement. -/
private theorem lines?_childLines {type : String} (ht : isIdentifier type = true) (depth : Nat)
    (n : Node) (hn : typeName n = type) (ignoring : Bool) {texts : List String} {inside : Suite Call}
    (htexts : lines? texts = some (inside.lines indent)) (hnil : texts = [] ↔ inside = .done)
    (rest : Suite Call) : ∃ statement : List (Line Call),
      lines? (Transcript.childLines (Transcript.plain indent typeName) depth n ignoring none texts) =
        some statement ∧
      statement ++ rest.lines indent = (match inside with
        | .done => Suite.step (childCall (Transcript.plainCursorName depth) "child" type ignoring) rest
        | inside => Suite.block
          (childCall (Transcript.plainCursorName depth) "child_block" type ignoring)
          (Transcript.plainCursorName (depth + 1)) inside rest).lines indent := by
  have houter := isIdentifier_plainCursorName depth
  have hinner := isIdentifier_plainCursorName (depth + 1)
  subst hn
  -- A child with no lines inside takes one line, any other has a block.
  cases texts with
  | nil =>
      rw [hnil.mp rfl]
      exact ⟨_, lines?_cons (line?_call houter ht ignoring) rfl, rfl⟩
  | cons text texts =>
      have hheader := line?_childBlock houter ht hinner ignoring
      have hlines : lines? (Transcript.childLines (Transcript.plain indent typeName) depth n ignoring
          none (text :: texts)) =
            some ([⟨0, .block (childCall (Transcript.plainCursorName depth) "child_block"
              (typeName n) ignoring) (Transcript.plainCursorName (depth + 1))⟩] ++
                (inside.lines indent).map (·.shift indent)) := by
        simp only [Transcript.childLines, Option.map_none, Option.toList_none, List.append_nil]
        exact lines?_cons hheader (lines?_indent indent htexts)
      refine ⟨_, hlines, ?_⟩
      cases inside with
      | done => exact absurd (hnil.mpr rfl) (List.cons_ne_nil text texts)
      | _ => simp [Suite.lines]

private theorem childLines_ne_nil (depth : Nat) (n : Node) (ignoring : Bool) (texts : List String) :
    Transcript.childLines (Transcript.plain indent typeName) depth n ignoring none texts ≠ [] := by
  cases texts <;> exact List.cons_ne_nil _ _

/-- The statements in the block of a node read as its suite. -/
theorem lines?_body (indent : Nat) (t : Tree) (limit : DumpLimit) (depth : Nat)
    (hnames : ∀ n, t.Shown limit n → isIdentifier (typeName n) = true) :
    lines? (Transcript.body (Transcript.plain indent typeName) limit depth t) =
        some ((t.suite typeName limit depth).lines indent) ∧
      (Transcript.body (Transcript.plain indent typeName) limit depth t = [] ↔
        t.suite typeName limit depth = .done) := by
  induction t using Tree.induct generalizing limit depth with
  | branch n ts ih =>
      rw [body_plain, Tree.suite]
      cases hlimit : limit.isExhausted with
      | true => exact ⟨rfl, iff_of_true rfl rfl⟩
      | false =>
          simp only [Bool.false_eq_true, if_false]
          have hchild : ∀ t ∈ ts, ∀ m, t.Shown limit.below m → isIdentifier (typeName m) = true :=
            fun t ht m hm => hnames m (.child hlimit ht hm)
          -- In the plain style it makes no difference at which position a child stands.
          clear hnames
          generalize 0 = position
          induction ts generalizing position with
          | nil => exact ⟨rfl, iff_of_true rfl rfl⟩
          | cons t ts ihts =>
              obtain ⟨htexts, hnil⟩ :=
                ih t List.mem_cons_self limit.below (depth + 1) (hchild t List.mem_cons_self)
              obtain ⟨hrest, -⟩ := ihts (fun u hu => ih u (List.mem_cons_of_mem t hu))
                (fun u hu => hchild u (List.mem_cons_of_mem t hu)) (position + 1)
              obtain ⟨statement, hstatement, hlines⟩ := lines?_childLines
                (hchild t List.mem_cons_self _ (t.shown_root _)) depth t.root rfl limit.below.isExhausted htexts
                hnil (Tree.suites typeName limit depth ts)
              rw [children_plain_cons, lines?_append hstatement hrest, hlines, Tree.suites]
              refine ⟨rfl, iff_of_false ?_ ?_⟩
              · intro happend
                exact childLines_ne_nil _ _ _ _ (List.append_eq_nil_iff.mp happend).1
              · split <;> simp

/-- No block of a suite for a tree is empty. -/
theorem isFull_suite (typeName : Node → String) (t : Tree) (limit : DumpLimit) (depth : Nat) :
    (t.suite typeName limit depth).IsFull := by
  induction t using Tree.induct generalizing limit depth with
  | branch n ts ih =>
      rw [Tree.suite]
      split
      · trivial
      · induction ts with
        | nil => trivial
        | cons t ts ihts =>
            have hinside := ih t List.mem_cons_self limit.below (depth + 1)
            have hrest := ihts fun u hu => ih u (List.mem_cons_of_mem t hu)
            rw [Tree.suites]
            split
            · exact hrest
            · next inside hne => exact ⟨hne, hinside, hrest⟩

/-! ## Reading the whole transcript -/

/-- What stands in a block, or `pass`, reads as that. -/
private theorem lines?_orPass {texts : List String} {inside : Suite Call}
    (htexts : lines? texts = some (inside.lines indent)) (hnil : texts = [] ↔ inside = .done) :
    lines? (if texts.isEmpty then ["pass"] else texts) = some (inside.orPass.lines indent) := by
  cases texts with
  | nil =>
      rw [hnil.mp rfl]
      exact lines?_cons line?_pass rfl
  | cons text texts =>
      rw [List.isEmpty_cons, if_neg Bool.false_ne_true, htexts]
      cases inside with
      | done => exact absurd (hnil.mpr rfl) (List.cons_ne_nil text texts)
      | _ => rfl

/-- The lines of a transcript read as the lines of its script. -/
theorem lines?_transcript (t : Tree) (limit : DumpLimit)
    (hnames : ∀ n, t.Shown limit n → isIdentifier (typeName n) = true) :
    lines? (Transcript.lines (Transcript.plain indent typeName) limit t) =
      some ((t.script typeName limit).lines indent) := by
  obtain ⟨htexts, hnil⟩ := lines?_body indent t limit 0 hnames
  have hheader := line?_root (hnames _ (t.shown_root limit)) (isIdentifier_plainCursorName 0) limit.isExhausted
  have hlines := lines?_cons hheader (lines?_indent indent (lines?_orPass htexts hnil))
  rw [Tree.script, Suite.lines, Suite.lines, List.append_nil]
  exact hlines

end

/-! ## Texts that read are cut where they were joined -/

theorem newline_not_mem_of_scan {word cs : List Char} {words : List Word}
    (h : scan word cs = some words) : '\n' ∉ cs := by
  induction cs generalizing word words with
  | nil => exact List.not_mem_nil
  | cons c cs ih =>
      have hrest : ∀ {f : List Word → List Word}, (scan [] cs).map f = some words → '\n' ∉ cs := by
        intro f hmap
        obtain ⟨more, hmore, -⟩ := Option.map_eq_some_iff.mp hmap
        exact ih hmore
      rw [scan] at h
      rw [List.mem_cons, not_or]
      split at h
      · next hword => exact ⟨by rintro rfl; exact absurd hword (by decide), ih h⟩
      · split at h
        · next hblank => exact ⟨by rintro rfl; exact absurd hblank (by decide), hrest h⟩
        · split at h
          · next hsymbol => exact ⟨by rintro rfl; exact absurd hsymbol (by decide), hrest h⟩
          · cases h

theorem newline_not_mem_of_line? {text : String} {ls : List (Line Call)} (h : line? text = some ls) :
    '\n' ∉ text.toList := by
  rw [line?] at h
  cases hscan : scan [] (text.toList.dropWhile (· == ' ')) with
  | none =>
      rw [hscan] at h
      cases h
  | some words =>
      have hdrop := newline_not_mem_of_scan hscan
      intro hmem
      rw [← List.takeWhile_append_dropWhile (p := (· == ' ')) (l := text.toList),
        List.mem_append] at hmem
      rcases hmem with hmem | hmem
      · exact absurd (List.all_eq_true.mp List.all_takeWhile _ hmem) (by decide)
      · exact hdrop hmem

theorem read_join {texts : List String} {ls : List (Line Call)} (hne : texts ≠ [])
    (h : lines? texts = some ls) : Replay.read (Text.join texts) = suite? 0 ls := by
  have hlines : ∀ texts : List String, ∀ ls, lines? texts = some ls →
      ∀ text ∈ texts, '\n' ∉ text.toList := by
    intro texts
    induction texts with
    | nil =>
        intro _ _ text htext
        cases htext
    | cons first texts ih =>
        intro ls hls text htext
        obtain ⟨_, rest, hfirst, hrest, -⟩ := exists_of_lines?_cons hls
        rcases List.mem_cons.mp htext with rfl | htext
        · exact newline_not_mem_of_line? hfirst
        · exact ih rest hrest text htext
  rw [Replay.read, Text.lines_join hne (hlines texts ls h), h]
  rfl

/-- The transcript of a tree reads as its script. -/
theorem read_transcript {indent : Nat} (hindent : 0 < indent) {typeName : Node → String} (t : Tree)
    (limit : DumpLimit) (hnames : ∀ n, t.Shown limit n → isIdentifier (typeName n) = true) :
    Replay.read (Transcript.render (Transcript.plain indent typeName) limit t) =
      some (t.script typeName limit) := by
  have hfull : (t.script typeName limit).IsFull :=
    ⟨Suite.orPass_ne_done _, (isFull_suite typeName t limit 0).orPass, trivial⟩
  -- Even the transcript of a leaf has the header of its block.
  have hne : Transcript.lines (Transcript.plain indent typeName) limit t ≠ [] := List.cons_ne_nil _ _
  rw [Transcript.render, read_join hne (lines?_transcript t limit hnames), suite?_lines hindent hfull]

end TreeShape
