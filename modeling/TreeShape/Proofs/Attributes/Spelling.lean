import TreeShape.Proofs.Attributes.Source
import TreeShape.Proofs.Replay.Printed

/-!
# Reading the lines of dumps of attributes

The lines of a dump of attributes, and what is read from them.

## Strategy

* A path is written as names with dots between them and a position in brackets behind them.  Neither
  names nor positions have a bracket in them, so the text falls into two parts at the first one, and
  `path?_text` reads both.
* What stands on the right is read as a literal if it starts as one does, and as a path otherwise.  No
  path starts so, `head_text`; a path is thus read as itself, `operand?_path`, and an assertion as the
  claim that was written, `reads_claim`.
* No other line starts as assertions do.  Lines without assertions are read as they are in scripts
  without them, `reads_of_replay`, and only the line that binds the result of a call is new,
  `reads_bind`.
* `Reads` says of one line that it is one and what it is read as, and `ReadAs` says it of several, line
  by line; both are kept by indenting them, `ReadAs.indent`.
-/

namespace TreeShape.Audit

open Replay

/-! ## Paths -/

namespace Path

/-- The text of a path. -/
def text (p : Path) : String :=
  p.attributes.foldl (fun text attr => text ++ "." ++ attr) p.root ++
    ((p.index.map fun k => "[" ++ toString k ++ "]").getD "")

/-- The names in the path are names. -/
structure IsNamed (p : Path) : Prop where
  root : isIdentifier p.root = true
  attributes : ∀ attr ∈ p.attributes, isIdentifier attr = true

/-- An attribute of what a path leads to. -/
def attr (p : Path) (name : String) : Path := { p with attributes := p.attributes ++ [name] }

theorem text_attr {p : Path} (hp : p.index = none) (name : String) :
    (p.attr name).text = p.text ++ "." ++ name := by
  simp only [text, attr, hp, List.foldl_append, List.foldl_cons, List.foldl_nil, Option.map_none,
    Option.getD_none, String.append_empty]

theorem IsNamed.attr {p : Path} (hp : p.IsNamed) {name : String} (hname : isIdentifier name = true) :
    (p.attr name).IsNamed := by
  refine ⟨hp.root, fun other hother => ?_⟩
  rcases List.mem_append.mp hother with hother | hother
  · exact hp.attributes other hother
  · exact List.mem_singleton.mp hother ▸ hname

/-- The characters of the names, and of what is between brackets. -/
private def front (p : Path) : List Char :=
  p.root.toList ++ p.attributes.flatMap fun attr => '.' :: attr.toList

private def back (p : Path) : List Char :=
  (p.index.map fun k => '[' :: (Nat.toDigits 10 k ++ [']'])).getD []

private theorem toList_text (p : Path) : p.text.toList = p.front ++ p.back := by
  have hnames : ∀ (attributes : List String) (root : String),
      (attributes.foldl (fun text attr => text ++ "." ++ attr) root).toList =
        root.toList ++ attributes.flatMap fun attr => '.' :: attr.toList := by
    intro attributes
    induction attributes with
    | nil => simp
    | cons attr attributes ih =>
        intro root
        have hdot : ".".toList = ['.'] := by decide
        rw [List.foldl_cons, ih, List.flatMap_cons, String.toList_append, String.toList_append, hdot]
        simp only [List.append_assoc, List.cons_append, List.nil_append]
  have hopen : "[".toList = ['['] := by decide
  have hclose : "]".toList = [']'] := by decide
  rw [text, String.toList_append, hnames, front, back]
  congr 1
  cases p.index with
  | none => rfl
  | some k =>
      have hdigits : (toString k).toList = Nat.toDigits 10 k := Nat.toList_repr
      simp only [Option.map_some, Option.getD_some, String.toList_append, hopen, hclose, hdigits,
        List.cons_append, List.nil_append]

variable {p : Path}

private theorem front_cases (hp : p.IsNamed) {c : Char} (hc : c ∈ p.front) :
    Syntax.isWordChar c = true ∨ c = '.' := by
  rw [front, List.mem_append, List.mem_flatMap] at hc
  rcases hc with hc | ⟨attr, hattr, hc⟩
  · exact .inl ((isWord_of_isIdentifier hp.root).2 c hc)
  · rcases List.mem_cons.mp hc with rfl | hc
    · exact .inr rfl
    · exact .inl ((isWord_of_isIdentifier (hp.attributes attr hattr)).2 c hc)

private theorem back_cases {c : Char} (hc : c ∈ p.back) : c.isDigit = true ∨ c = '[' ∨ c = ']' := by
  rw [back] at hc
  cases hindex : p.index with
  | none => simp [hindex] at hc
  | some k =>
      simp only [hindex, Option.map_some, Option.getD_some, List.mem_cons, List.mem_append,
        List.not_mem_nil, or_false] at hc
      rcases hc with rfl | hc | rfl
      · exact .inr (.inl rfl)
      · exact .inl (Nat.isDigit_of_mem_toDigits (by decide) (by decide) hc)
      · exact .inr (.inr rfl)

/-- There are no spaces and no line feeds in a path. -/
theorem not_mem_text (hp : p.IsNamed) {c : Char} (hc : c = ' ' ∨ c = '\n') : c ∉ p.text.toList := by
  rw [toList_text, List.mem_append, not_or]
  constructor
  · intro hmem
    rcases front_cases hp hmem with hword | rfl
    · rcases hc with rfl | rfl <;> exact absurd hword (by decide)
    · rcases hc with hc | hc <;> exact absurd hc (by decide)
  · intro hmem
    rcases back_cases hmem with hdigit | rfl | rfl
    · rcases hc with rfl | rfl <;> exact absurd hdigit (by decide)
    · rcases hc with hc | hc <;> exact absurd hc (by decide)
    · rcases hc with hc | hc <;> exact absurd hc (by decide)

/-- The words of names with dots between them. -/
private theorem scan_names {root : String} (hroot : IsWord root) {attributes : List String}
    (h : ∀ attr ∈ attributes, IsWord attr) :
    scan [] (root.toList ++ attributes.flatMap fun attr => '.' :: attr.toList) =
      some (.name root :: attributes.flatMap fun attr => [.symbol '.', .name attr]) := by
  induction attributes generalizing root with
  | nil =>
      rw [List.flatMap_nil, scan_append_word hroot.2, List.append_nil, scan, wordOf_reverse hroot]
      rfl
  | cons attr attributes ih =>
      have hrest := ih (h attr List.mem_cons_self) fun a ha => h a (List.mem_cons_of_mem attr ha)
      have hfirst := spells_symbol hroot (c := '.') rfl
        (attr.toList ++ attributes.flatMap fun attr => '.' :: attr.toList)
      rw [hrest] at hfirst
      simp only [List.flatMap_cons, List.cons_append, List.append_assoc, List.nil_append] at hfirst ⊢
      exact hfirst

private theorem attributes?_words {attributes : List String}
    (h : ∀ attr ∈ attributes, isIdentifier attr = true) :
    attributes? (attributes.flatMap fun attr => [.symbol '.', .name attr]) = some attributes := by
  induction attributes with
  | nil => rfl
  | cons attr attributes ih =>
      have hrest := ih fun a ha => h a (List.mem_cons_of_mem attr ha)
      simp only [List.flatMap_cons, List.cons_append, List.nil_append, attributes?, hrest,
        name?_of_isIdentifier (h attr List.mem_cons_self)]
      rfl

private theorem index?_back (p : Path) : index? p.back = some p.index := by
  rw [back]
  cases p.index with
  | none => rfl
  | some k =>
      have hdigits : ∀ c ∈ Nat.toDigits 10 k, c.isDigit = true :=
        fun c hc => Nat.isDigit_of_mem_toDigits (by decide) (by decide) hc
      have hclose : Char.isDigit ']' = false := by decide
      simp [index?, List.takeWhile_append_of_pos hdigits, List.dropWhile_append_of_pos hdigits,
        hclose, Nat.toDigits_ne_nil, Nat.ofDigitChars_ten_toDigits]

/-- What is between brackets starts where the first bracket stands. -/
private theorem takeWhile_text (hp : p.IsNamed) : p.text.toList.takeWhile (· != '[') = p.front ∧
    p.text.toList.dropWhile (· != '[') = p.back := by
  have hfront : ∀ c ∈ p.front, (c != '[') = true := by
    intro c hc
    rw [bne_iff_ne]
    rintro rfl
    rcases front_cases hp hc with hword | hdot
    · exact absurd hword (by decide)
    · exact absurd hdot (by decide)
  rw [toList_text, List.takeWhile_append_of_pos hfront, List.dropWhile_append_of_pos hfront, back]
  cases p.index with
  | none => simp
  | some k => simp

/-- A path is read from its text. -/
theorem path?_text (hp : p.IsNamed) : path? p.text.toList = some p := by
  obtain ⟨htake, hdrop⟩ := takeWhile_text hp
  have hscan := scan_names (isWord_of_isIdentifier hp.root)
    fun attr hattr => isWord_of_isIdentifier (hp.attributes attr hattr)
  rw [path?, htake, hdrop, front, hscan]
  simp only [Option.bind_eq_bind, Option.bind_some, name?_of_isIdentifier hp.root,
    attributes?_words hp.attributes, index?_back]
  rfl

/-- No path starts as a literal does. -/
theorem head_text (hp : p.IsNamed) : p.text.toList.head?.any startsLiteral = false := by
  have hroot := hp.root
  unfold isIdentifier at hroot
  rw [toList_text, front]
  cases hlist : p.root.toList with
  | nil => simp [hlist] at hroot
  | cons c cs =>
      simp only [hlist, Bool.and_eq_true, Bool.not_eq_true', List.all_cons] at hroot
      obtain ⟨⟨hdigit, hword, -⟩, -⟩ := hroot
      have hother : ∀ d, Syntax.isWordChar d = false → (c == d) = false := by
        intro d hd
        rw [beq_eq_false_iff_ne]
        rintro rfl
        rw [hword] at hd
        cases hd
      simp [startsLiteral, hdigit, hother '-' (by decide), hother '\'' (by decide),
        hother '"' (by decide)]

end Path

/-- A text without line feeds that reads as the given lines, of which there may be none. -/
structure Reads (literals : String → Option Value) (text : String) (ls : List (Line Statement)) : Prop where
  line? : line? literals text = some ls
  whole : '\n' ∉ text.toList

/-! ## Assertions -/

section

variable {literals : String → Option Value} {p : Path}

/-- A path may stand on the right. -/
theorem operand?_path (hp : p.IsNamed) : operand? literals p.text = some (.path p) := by
  have hnone : ∀ constant ∈ constants, path? constant.toList = none := by decide
  have hne : ∀ constant ∈ constants, p.text ≠ constant := by
    rintro _ hmem rfl
    have hpath := hnone _ hmem
    rw [Path.path?_text hp] at hpath
    cases hpath
  rw [operand?_eq_term literals hne, term?, Path.head_text hp, Path.path?_text hp]
  rfl

/-- What stands behind the word that asserts, cut at its first space. -/
private theorem claim?_text (hp : p.IsNamed) (identical : Bool) {text : String} {o : Operand}
    (ho : operand? literals text = some o) :
    claim? literals (p.text.toList ++ ((if identical then " is " else " == ").toList ++ text.toList)) =
      some ⟨p, identical, o⟩ := by
  have hblank : ∀ c ∈ p.text.toList, (c != ' ') = true := by
    intro c hc
    rw [bne_iff_ne]
    rintro rfl
    exact Path.not_mem_text hp (.inl rfl) hc
  have hsign : (if identical then " is " else " == ").toList =
      ' ' :: (if identical then ['i', 's', ' '] else ['=', '=', ' ']) := by
    cases identical <;> decide
  rw [claim?, List.takeWhile_append_of_pos hblank, List.dropWhile_append_of_pos hblank, hsign]
  cases identical <;> simp [Path.path?_text hp, ho]

/-- An assertion. -/
theorem reads_claim (hp : p.IsNamed) (identical : Bool) {text : String} {o : Operand}
    (ho : operand? literals text = some o) (hwhole : '\n' ∉ text.toList) :
    Reads literals ("assert " ++ p.text ++ (if identical then " is " else " == ") ++ text)
      [⟨0, .statement (.claim ⟨p, identical, o⟩)⟩] := by
  have hassert : "assert ".toList = assertWord := by decide
  have htext : ("assert " ++ p.text ++ (if identical then " is " else " == ") ++ text).toList =
      assertWord ++ (p.text.toList ++
        ((if identical then " is " else " == ").toList ++ text.toList)) := by
    simp only [String.toList_append, hassert, List.append_assoc]
  constructor
  · have hclaim := claim?_text hp identical ho
    generalize p.text.toList ++ ((if identical then " is " else " == ").toList ++ text.toList) = rest
      at htext hclaim
    have hdrop : (assertWord ++ rest).dropWhile (· == ' ') = assertWord ++ rest := rfl
    rw [line?, htext, hdrop, if_pos (List.isPrefixOf_iff_prefix.mpr (List.prefix_append ..)),
      List.drop_left, hclaim]
    rfl
  · have hsign : '\n' ∉ (if identical then " is " else " == ").toList := by
      cases identical <;> decide
    simp only [htext, List.mem_append, not_or]
    exact ⟨by decide, Path.not_mem_text hp (.inr rfl), hsign, hwhole⟩

/-! ## Other lines -/

/-- A line that starts with another letter than assertions do. -/
private theorem not_asserting {text : String} {c : Char} (htext : text.toList.head? = some c)
    (hblank : c ≠ ' ') (hother : c ≠ 'a') : text.toList.dropWhile (· == ' ') = text.toList ∧
      assertWord.isPrefixOf text.toList = false := by
  obtain ⟨cs, hcs⟩ := List.head?_eq_some_iff.mp htext
  simp [hcs, hblank, assertWord, List.isPrefixOf, Ne.symm hother]

/-- A line of a script without assertions is read as there. -/
private theorem reads_of_replay {text : String} {c : Char} (htext : text.toList.head? = some c)
    (hblank : c ≠ ' ') (hother : c ≠ 'a') {ls : List (Line Call)}
    (h : Replay.line? text = some ls) : Reads literals text (ls.map (·.map .call)) := by
  obtain ⟨hdrop, hassert⟩ := not_asserting htext hblank hother
  refine ⟨?_, newline_not_mem_of_line? h⟩
  rw [line?, hdrop, hassert, h]
  rfl

theorem reads_blank : Reads literals "" [] := ⟨rfl, by decide⟩

theorem reads_pass : Reads literals "pass" [⟨0, .pass⟩] :=
  reads_of_replay (c := 'p') (by decide) (by decide) (by decide) line?_pass

variable {type : String}

private theorem head?_cursorName (depth : Nat) (more : List Char) :
    ((Transcript.plainCursorName depth).toList ++ more).head? = some 'i' := by
  obtain ⟨digits, hlist, -⟩ := exists_plainCursorName_eq depth
  rw [hlist]
  rfl

/-- A call by itself. -/
theorem reads_call (ht : isIdentifier type = true) (depth : Nat) (ignoring : Bool) :
    Reads literals (Transcript.plainCursorName depth ++ ".child(" ++
        Transcript.arguments type ignoring ++ ")")
      [⟨0, .statement (.call
        (childCall (Transcript.plainCursorName depth) "child" type ignoring))⟩] := by
  refine reads_of_replay (c := 'i') ?_ (by decide) (by decide)
    (line?_call (isIdentifier_plainCursorName depth) ht ignoring)
  simp only [String.toList_append, List.append_assoc, head?_cursorName]

private theorem head?_with (text : String) : ("with " ++ text).toList.head? = some 'w' := by
  have hwith : "with ".toList = 'w' :: ['i', 't', 'h', ' '] := by decide
  rw [String.toList_append, hwith]
  rfl

/-- The header of a block for a child. -/
theorem reads_childBlock (ht : isIdentifier type = true) (depth : Nat) (ignoring : Bool) :
    Reads literals ("with " ++ Transcript.plainCursorName depth ++ ".child_block(" ++
        Transcript.arguments type ignoring ++ ") as " ++ Transcript.plainCursorName (depth + 1) ++
          ":")
      [⟨0, .block (childCall (Transcript.plainCursorName depth) "child_block" type ignoring)
        (Transcript.plainCursorName (depth + 1))⟩] := by
  refine reads_of_replay (c := 'w') ?_ (by decide) (by decide)
    (line?_childBlock (isIdentifier_plainCursorName depth) ht
      (isIdentifier_plainCursorName (depth + 1)) ignoring)
  simp only [String.append_assoc, head?_with]

/-- The header of the block of the root. -/
theorem reads_root (ht : isIdentifier type = true) (ignoring : Bool) :
    Reads literals ("with " ++ Transcript.plainOpening "match_node" type "" ignoring ++ " as " ++
        Transcript.plainCursorName 0 ++ ":")
      [⟨0, .block (rootCall type ignoring) (Transcript.plainCursorName 0)⟩] := by
  refine reads_of_replay (c := 'w') ?_ (by decide) (by decide)
    (line?_root ht (isIdentifier_plainCursorName 0) ignoring)
  simp only [String.append_assoc, head?_with]

private theorem spells_equals : Spells ['='] [.symbol '='] := fun rest => by
  rw [List.singleton_append, scan, if_neg (by decide), if_neg (by decide), if_pos (by decide)]
  rfl

/-- A name for a child. -/
theorem reads_bind (ht : isIdentifier type = true) (depth : Nat) (ignoring : Bool) :
    Reads literals (Transcript.plainCursorName (depth + 1) ++ " = " ++
        Transcript.plainCursorName depth ++ ".child(" ++ Transcript.arguments type ignoring ++ ")")
      [⟨0, .statement (.bind (Transcript.plainCursorName (depth + 1))
        (childCall (Transcript.plainCursorName depth) "child" type ignoring))⟩] := by
  have hinner := isIdentifier_plainCursorName (depth + 1)
  have houter := isIdentifier_plainCursorName depth
  obtain ⟨text, htext⟩ : ∃ text, Transcript.plainCursorName (depth + 1) ++ " = " ++
      Transcript.plainCursorName depth ++ ".child(" ++ Transcript.arguments type ignoring ++ ")" =
        text := ⟨_, rfl⟩
  have hlist : text.toList = ((Transcript.plainCursorName (depth + 1)).toList ++ [' ']) ++
      (['='] ++ ([' '] ++ (((Transcript.plainCursorName depth).toList ++ ['.']) ++
        (("child".toList ++ ['(']) ++ ((Transcript.arguments type ignoring).toList ++ [')']))))) := by
    have hequals : " = ".toList = [' '] ++ (['='] ++ [' ']) := by decide
    have hdot : ".child(".toList = ['.'] ++ ("child".toList ++ ['(']) := by decide
    have hend : ")".toList = [')'] := by decide
    simp only [← htext, String.toList_append, hequals, hdot, hend, List.append_assoc]
  have hchild : IsWord "child" := by decide
  have hspells := (spells_blank (isWord_of_isIdentifier hinner)).append (spells_equals.append
    (spells_space.append (spells_call (isWord_of_isIdentifier houter) hchild
      (isWord_of_isIdentifier ht) ignoring)))
  rw [← hlist] at hspells
  have hhead : text.toList.head? = some 'i' := by
    rw [hlist, List.append_assoc]
    exact head?_cursorName ..
  obtain ⟨hdrop, hassert⟩ := not_asserting hhead (by decide) (by decide)
  have htake : text.toList.takeWhile (· == ' ') = [] := by
    obtain ⟨cs, hcs⟩ := List.head?_eq_some_iff.mp hhead
    simp [hcs]
  have hidentifier : isIdentifier "child" = true := by decide
  have hcall := call?_words houter hidentifier ht ignoring []
  rw [List.append_nil] at hcall
  have hwith : Transcript.plainCursorName (depth + 1) ≠ "with" := by
    intro heq
    rw [heq] at hinner
    exact absurd hinner (by decide)
  -- The words of a binding are those of no other line.
  have hreplay : Replay.line? text = none := by
    rw [Replay.line?, hdrop, hspells.scan_eq]
    simp [head?, hwith, Replay.call?]
  rw [htext]
  refine ⟨?_, newline_not_mem_of_scan hspells.scan_eq⟩
  rw [line?, hdrop, hassert, hreplay, hspells.scan_eq, htake]
  simp [bind?, name?_of_isIdentifier hinner, hcall]

/-! ## Indented lines -/

/-- An indented line reads as it would otherwise, just further to the right. -/
theorem line?_indentLine (width : Nat) (text : String) :
    line? literals (Transcript.indentLine width text) =
      (line? literals text).map (·.map (·.shift width)) := by
  have hreplay := Replay.line?_indentLine width text
  unfold Transcript.indentLine at hreplay ⊢
  split
  · next hempty =>
      rw [String.isEmpty_iff] at hempty
      subst hempty
      rfl
  · next hempty =>
      rw [if_neg hempty] at hreplay
      have hblank : ∀ c ∈ List.replicate width ' ', (c == ' ') = true := by
        intro c hc
        rw [List.eq_of_mem_replicate hc]
        rfl
      have htext : (String.ofList (List.replicate width ' ') ++ text).toList =
          List.replicate width ' ' ++ text.toList := by
        rw [String.toList_append, String.toList_ofList]
      rw [line?, line?, hreplay, htext, List.dropWhile_append_of_pos hblank,
        List.takeWhile_append_of_pos hblank, List.length_append, List.length_replicate]
      split
      · rw [Option.map_map]
        rfl
      · cases Replay.line? text with
        | none =>
            simp only [Option.map_none, Option.map_map]
            rfl
        | some ls => simp [Line.map_shift]

end

/-! ## Several lines -/

/-- Texts without line feeds that read as lines, one text behind the other. -/
inductive ReadAs (literals : String → Option Value) : List String → List (Line Statement) → Prop
  | nil : ReadAs literals [] []
  | cons {text : String} {texts : List String} {first rest : List (Line Statement)} :
      Reads literals text first → ReadAs literals texts rest →
      ReadAs literals (text :: texts) (first ++ rest)

namespace ReadAs

variable {literals : String → Option Value} {text : String} {texts more : List String}
  {ls ms : List (Line Statement)}

theorem singleton (h : Reads literals text ls) : ReadAs literals [text] ls :=
  ls.append_nil ▸ .cons h .nil

theorem lines? (h : ReadAs literals texts ls) : lines? literals texts = some ls := by
  induction h with
  | nil => rfl
  | cons hfirst _ ih =>
      rw [Audit.lines?, hfirst.line?, ih]
      rfl

theorem whole (h : ReadAs literals texts ls) : ∀ text ∈ texts, '\n' ∉ text.toList := by
  induction h with
  | nil => simp
  | cons hfirst _ ih =>
      rw [List.forall_mem_cons]
      exact ⟨hfirst.whole, ih⟩

theorem append (h : ReadAs literals texts ls) (h' : ReadAs literals more ms) :
    ReadAs literals (texts ++ more) (ls ++ ms) := by
  induction h with
  | nil => exact h'
  | cons hfirst _ ih =>
      rw [List.cons_append, List.append_assoc]
      exact .cons hfirst ih

/-- Indented lines read as they would otherwise, just further to the right. -/
theorem indent (h : ReadAs literals texts ls) (width : Nat) :
    ReadAs literals (texts.map (Transcript.indentLine width)) (ls.map (·.shift width)) := by
  induction h with
  | nil => exact .nil
  | @cons text texts first rest hfirst _ ih =>
      rw [List.map_cons, List.map_append]
      refine .cons ⟨?_, ?_⟩ ih
      · rw [line?_indentLine, hfirst.line?]
        rfl
      · unfold Transcript.indentLine
        split
        · exact hfirst.whole
        · rw [String.toList_append, String.toList_ofList, List.mem_append, List.mem_replicate]
          rintro (⟨-, hblank⟩ | hmem)
          · exact absurd hblank (by decide)
          · exact hfirst.whole hmem

/-- A text is cut where its lines were joined. -/
theorem read_join (h : ReadAs literals texts ls) (hne : texts ≠ []) :
    read literals (Text.join texts) = suite? 0 ls := by
  rw [read, Text.lines_join hne h.whole, h.lines?]
  rfl

end ReadAs

end TreeShape.Audit
