import TreeShape.Proofs.Replay.Source

/-!
# Reading the lines of transcripts

The lines that transcripts in the plain style consist of, and what is read from them.

## Strategy

* A piece of text spells words, `Spells`, if these are scanned from it whatever comes after it.  So the
  words of a line are those of its pieces, `Spells.append`, and no line has to be scanned as a whole.
* The pieces are identifiers with a symbol or a blank behind them, `spells_symbol` and `spells_blank`,
  and from these the calls are put together, `spells_call`.
* What is read from the words of a call is the call, `call?_words`.  This gives one lemma for each kind
  of line: `line?_call`, `line?_childBlock`, `line?_root` and `line?_pass`.
* Indenting a line changes nothing but its column, `line?_indentLine`, so what was read from the lines
  of a body is read from them inside a block as well, `lines?_indent`.
-/

namespace TreeShape.Replay

/-! ## Spelling -/

/-- The characters spell the words, whatever follows. -/
def Spells (cs : List Char) (words : List Word) : Prop :=
  ∀ rest, scan [] (cs ++ rest) = (scan [] rest).map (words ++ ·)

/-- A text that can stand as one word. -/
def IsWord (text : String) : Prop := text.toList ≠ [] ∧ ∀ c ∈ text.toList, Syntax.isWordChar c = true

instance (text : String) : Decidable (IsWord text) :=
  decidable_of_iff ((!text.toList.isEmpty && text.toList.all Syntax.isWordChar) = true)
    (by simp [IsWord])

theorem isWord_of_isIdentifier {name : String} (h : isIdentifier name = true) : IsWord name := by
  unfold isIdentifier at h
  rw [IsWord]
  cases hlist : name.toList with
  | nil => simp [hlist] at h
  | cons c cs =>
      simp only [hlist, Bool.and_eq_true, List.all_eq_true] at h
      exact ⟨List.cons_ne_nil c cs, h.1.2⟩

section

variable {cs ds : List Char} {words more : List Word} {name : String} {c : Char}

theorem Spells.append (h : Spells cs words) (h' : Spells ds more) :
    Spells (cs ++ ds) (words ++ more) := by
  intro rest
  rw [List.append_assoc, h, h', Option.map_map]
  congr 1
  funext ws
  exact (List.append_assoc ..).symm

/-- What is spelled is read. -/
theorem Spells.scan_eq (h : Spells cs words) : scan [] cs = some words := by
  have hscan := h []
  rw [List.append_nil] at hscan
  rw [hscan]
  exact congrArg some (List.append_nil words)

theorem scan_append_word {cs : List Char} (h : ∀ c ∈ cs, Syntax.isWordChar c = true)
    (word rest : List Char) : scan word (cs ++ rest) = scan (cs.reverse ++ word) rest := by
  induction cs generalizing word with
  | nil => rfl
  | cons c cs ih =>
      rw [List.cons_append, scan, if_pos (h c List.mem_cons_self),
        ih fun d hd => h d (List.mem_cons_of_mem c hd)]
      simp

theorem wordOf_reverse (h : IsWord name) : wordOf name.toList.reverse = [.name name] := by
  cases hlist : name.toList.reverse with
  | nil => exact absurd (List.reverse_eq_nil_iff.mp hlist) h.1
  | cons c cs =>
      rw [wordOf, ← hlist, List.reverse_reverse, String.ofList_toList]
      exact List.cons_ne_nil c cs

private theorem isSymbol_cases (h : isSymbol c = true) :
    Syntax.isWordChar c = false ∧ c ≠ ' ' := by
  have hall : ['(', ')', '.', ',', '=', ':'].all
      (fun d => !Syntax.isWordChar d && d != ' ') = true := by decide
  simpa using List.all_eq_true.mp hall c (List.contains_iff_mem.mp h)

/-- A word and the symbol behind it. -/
theorem spells_symbol (hname : IsWord name) (h : isSymbol c = true) :
    Spells (name.toList ++ [c]) [.name name, .symbol c] := by
  intro rest
  obtain ⟨hword, hblank⟩ := isSymbol_cases h
  rw [List.append_assoc, scan_append_word hname.2, List.append_nil, List.singleton_append, scan,
    if_neg (by simp [hword]), if_neg hblank, if_pos h, wordOf_reverse hname]
  rfl

/-- A word and the space behind it. -/
theorem spells_blank (hname : IsWord name) : Spells (name.toList ++ [' ']) [.name name] := by
  intro rest
  rw [List.append_assoc, scan_append_word hname.2, List.append_nil, List.singleton_append, scan,
    if_neg (by decide), if_pos rfl, wordOf_reverse hname]

/-- A space behind a symbol. -/
theorem spells_space : Spells [' '] [] := fun rest => by
  rw [List.singleton_append, scan, if_neg (by decide), if_pos rfl]
  rfl

end

/-! ## Calls -/

/-- The options of a match: whether children are ignored is only said if they are. -/
def optionsFor (ignoring : Bool) : List (String × Bool) :=
  if ignoring then [("ignore_children", true)] else []

/-- The call that matches a child. -/
def childCall (owner function type : String) (ignoring : Bool) : Call :=
  ⟨some owner, function, [type], optionsFor ignoring⟩

/-- The call that matches a tree. -/
def rootCall (type : String) (ignoring : Bool) : Call :=
  ⟨none, "match_node", ["node", type], optionsFor ignoring⟩

/-- The words for the type of a node and for whether its children are ignored. -/
def argumentWords (type : String) (ignoring : Bool) : List Word :=
  .name type :: if ignoring then
    [.symbol ',', .name "ignore_children", .symbol '=', .name "True"] else []

private theorem spells_arguments {type : String} (ht : IsWord type) (ignoring : Bool) :
    Spells ((Transcript.arguments type ignoring).toList ++ [')'])
      (argumentWords type ignoring ++ [.symbol ')']) := by
  cases ignoring with
  | false =>
      have htext : (Transcript.arguments type false).toList = type.toList := by
        simp [Transcript.arguments]
      rw [htext]
      exact spells_symbol ht rfl
  | true =>
      have htext : (Transcript.arguments type true).toList ++ [')'] =
          (type.toList ++ [',']) ++ ([' '] ++ (("ignore_children".toList ++ ['=']) ++
            ("True".toList ++ [')']))) := by
        have hoption : ", ignore_children=True".toList =
            [','] ++ ([' '] ++ ("ignore_children".toList ++ (['='] ++ "True".toList))) := by decide
        simp only [Transcript.arguments, if_true, String.toList_append, hoption, List.append_assoc]
      rw [htext]
      exact (spells_symbol ht rfl).append (spells_space.append
        ((spells_symbol (by decide) rfl).append (spells_symbol (by decide) rfl)))

theorem name?_of_isIdentifier {name : String} (h : isIdentifier name = true) :
    name? (.name name) = some name := by
  rw [name?, if_pos h]

private theorem arguments?_words {type : String} (ht : isIdentifier type = true) (ignoring : Bool)
    (rest : List Word) : arguments? (argumentWords type ignoring ++ .symbol ')' :: rest) =
      some (([type], optionsFor ignoring), rest) := by
  cases ignoring with
  | false =>
      simp only [argumentWords, Bool.false_eq_true, if_false, List.singleton_append, arguments?,
        if_true, name?_of_isIdentifier ht]
      rfl
  | true =>
      have hkey : isIdentifier "ignore_children" = true := by decide
      simp [argumentWords, arguments?, options?, name?_of_isIdentifier ht,
        name?_of_isIdentifier hkey, truth?, optionsFor]

/-- The words of a call that matches a child. -/
def callWords (owner function type : String) (ignoring : Bool) : List Word :=
  [.name owner, .symbol '.', .name function, .symbol '('] ++
    (argumentWords type ignoring ++ [.symbol ')'])

theorem spells_call {owner function type : String} (ho : IsWord owner)
    (hf : IsWord function) (ht : IsWord type) (ignoring : Bool) :
    Spells ((owner.toList ++ ['.']) ++ ((function.toList ++ ['(']) ++
        ((Transcript.arguments type ignoring).toList ++ [')'])))
      (callWords owner function type ignoring) :=
  (spells_symbol ho rfl).append ((spells_symbol hf rfl).append (spells_arguments ht ignoring))

theorem call?_words {owner function type : String} (ho : isIdentifier owner = true)
    (hf : isIdentifier function = true) (ht : isIdentifier type = true) (ignoring : Bool)
    (rest : List Word) : call? (callWords owner function type ignoring ++ rest) =
      some (childCall owner function type ignoring, rest) := by
  simp only [callWords, List.append_assoc, List.cons_append, List.nil_append, call?,
    name?_of_isIdentifier ho, name?_of_isIdentifier hf, arguments?_words ht]
  rfl

/-! ## Lines -/

private theorem line?_of_spells {text : String} {name : String} {more : List Char}
    {words : List Word} {head : Head Call} (htext : text.toList = name.toList ++ more)
    (hname : IsWord name) (hspells : Spells text.toList words) (hhead : head? words = some head) :
    line? text = some [⟨0, head⟩] := by
  -- A line that starts with a word is not indented.
  obtain ⟨c, cs, hlist⟩ : ∃ c cs, text.toList = c :: cs ∧ (c == ' ') = false := by
    cases hchars : name.toList with
    | nil => exact absurd hchars hname.1
    | cons c cs =>
        have hword := hname.2 c (by simp [hchars])
        refine ⟨c, cs ++ more, by rw [htext, hchars]; rfl, ?_⟩
        rw [beq_eq_false_iff_ne]
        rintro rfl
        exact absurd hword (by decide)
  have hdrop : text.toList.dropWhile (· == ' ') = text.toList := by
    rw [hlist.1, List.dropWhile_cons, hlist.2]
    rfl
  have htake : text.toList.takeWhile (· == ' ') = [] := by
    rw [hlist.1, List.takeWhile_cons, hlist.2]
    rfl
  rw [line?, hdrop, htake, hspells.scan_eq]
  cases words with
  | nil => simp [head?, call?] at hhead
  | cons word words =>
      simp only [Option.bind_eq_bind, Option.bind_some, hhead]
      rfl

private theorem head?_call {owner function type : String} (ho : isIdentifier owner = true)
    (hf : isIdentifier function = true) (ht : isIdentifier type = true) (ignoring : Bool) :
    head? (callWords owner function type ignoring) =
      some (.statement (childCall owner function type ignoring)) := by
  have hwith : owner ≠ "with" := by
    rintro rfl
    exact absurd ho (by decide)
  have hcall := call?_words ho hf ht ignoring []
  rw [List.append_nil] at hcall
  rw [head?, if_neg (by simp [callWords]), if_neg (by simp [callWords, hwith]), hcall]
  rfl

/-- A call by itself. -/
theorem line?_call {owner type : String} (ho : isIdentifier owner = true)
    (ht : isIdentifier type = true) (ignoring : Bool) :
    line? (owner ++ ".child(" ++ Transcript.arguments type ignoring ++ ")") =
      some [⟨0, .statement (childCall owner "child" type ignoring)⟩] := by
  have hword := isWord_of_isIdentifier ho
  have htext : (owner ++ ".child(" ++ Transcript.arguments type ignoring ++ ")").toList =
      (owner.toList ++ ['.']) ++ (("child".toList ++ ['(']) ++
        ((Transcript.arguments type ignoring).toList ++ [')'])) := by
    have hdot : ".child(".toList = ['.'] ++ ("child".toList ++ ['(']) := by decide
    have hend : ")".toList = [')'] := by decide
    simp only [String.toList_append, hdot, hend, List.append_assoc]
  have hspells : Spells _ (callWords owner "child" type ignoring) :=
    spells_call hword (by decide) (isWord_of_isIdentifier ht) ignoring
  rw [← htext] at hspells
  exact line?_of_spells (htext.trans (List.append_assoc ..)) hword hspells
    (head?_call ho (by decide) ht ignoring)

/-- The header of a block that a call opens. -/
private theorem line?_header {text name : String} {cs : List Char} {words : List Word} {c : Call}
    (htext : text.toList = ("with".toList ++ [' ']) ++ (cs ++ ([' '] ++ (("as".toList ++ [' ']) ++
      (name.toList ++ [':'])))))
    (hspells : Spells cs words) (hcall : ∀ rest, call? (words ++ rest) = some (c, rest))
    (hn : isIdentifier name = true) : line? text = some [⟨0, .block c name⟩] := by
  have hall : Spells _ ([.name "with"] ++ (words ++ ([] ++ ([.name "as"] ++
      [.name name, .symbol ':'])))) :=
    (spells_blank (by decide)).append (hspells.append (spells_space.append
      ((spells_blank (by decide)).append (spells_symbol (isWord_of_isIdentifier hn) rfl))))
  rw [← htext] at hall
  refine line?_of_spells (htext.trans (List.append_assoc ..)) (by decide) hall ?_
  rw [List.singleton_append, head?, if_neg (by simp), if_pos List.head?_cons]
  simp only [List.tail_cons, List.nil_append, List.singleton_append, block?, hcall]
  simp [name?_of_isIdentifier hn]

/-- The header of a block for a child. -/
theorem line?_childBlock {owner type name : String} (ho : isIdentifier owner = true)
    (ht : isIdentifier type = true) (hn : isIdentifier name = true) (ignoring : Bool) :
    line? ("with " ++ owner ++ ".child_block(" ++ Transcript.arguments type ignoring ++ ") as " ++
        name ++ ":") =
      some [⟨0, .block (childCall owner "child_block" type ignoring) name⟩] := by
  refine line?_header ?_ (spells_call (isWord_of_isIdentifier ho) (by decide)
    (isWord_of_isIdentifier ht) ignoring) (call?_words ho (by decide) ht ignoring) hn
  have hwith : "with ".toList = "with".toList ++ [' '] := by decide
  have hdot : ".child_block(".toList = ['.'] ++ ("child_block".toList ++ ['(']) := by decide
  have has : ") as ".toList = [')'] ++ ([' '] ++ ("as".toList ++ [' '])) := by decide
  have hend : ":".toList = [':'] := by decide
  simp only [String.toList_append, hwith, hdot, has, hend, List.append_assoc]

/-- The header of the block of the root. -/
theorem line?_root {type name : String} (ht : isIdentifier type = true)
    (hn : isIdentifier name = true) (ignoring : Bool) :
    line? ("with " ++ Transcript.plainOpening "match_node" type "" ignoring ++ " as " ++ name ++ ":") =
      some [⟨0, .block (rootCall type ignoring) name⟩] := by
  have hspells : Spells _ ([.name "match_node", .symbol '('] ++ ([.name "node", .symbol ','] ++
      ([] ++ (argumentWords type ignoring ++ [.symbol ')'])))) :=
    (spells_symbol (by decide) rfl).append ((spells_symbol (by decide) rfl).append
      (spells_space.append (spells_arguments (isWord_of_isIdentifier ht) ignoring)))
  refine line?_header ?_ hspells ?_ hn
  · have hwith : "with ".toList = "with".toList ++ [' '] := by decide
    have hopen : "(node, ".toList = ['('] ++ (("node".toList ++ [',']) ++ [' ']) := by decide
    have has : " as ".toList = [' '] ++ ("as".toList ++ [' ']) := by decide
    have hclose : ")".toList = [')'] := by decide
    have hend : ":".toList = [':'] := by decide
    simp only [Transcript.plainOpening, String.toList_append, hwith, hopen, has, hclose, hend,
      List.append_assoc, String.toList_empty, List.nil_append]
  · intro rest
    have hmatch : isIdentifier "match_node" = true := by decide
    have hnode : isIdentifier "node" = true := by decide
    simp [call?, arguments?, arguments?_words ht, name?_of_isIdentifier hmatch,
      name?_of_isIdentifier hnode, rootCall]

theorem line?_pass : line? "pass" = some [⟨0, .pass⟩] := by decide

/-! ## Indented lines -/

/-- An indented line reads as it would otherwise, just further to the right. -/
theorem line?_indentLine (width : Nat) (text : String) :
    line? (Transcript.indentLine width text) = (line? text).map (·.map (·.shift width)) := by
  unfold Transcript.indentLine
  split
  · next hempty =>
      rw [String.isEmpty_iff] at hempty
      subst hempty
      rfl
  · have hblank : ∀ c ∈ List.replicate width ' ', (c == ' ') = true := by
      intro c hc
      rw [List.eq_of_mem_replicate hc]
      rfl
    have htext : (String.ofList (List.replicate width ' ') ++ text).toList =
        List.replicate width ' ' ++ text.toList := by
      rw [String.toList_append, String.toList_ofList]
    rw [line?, line?, htext, List.dropWhile_append_of_pos hblank,
      List.takeWhile_append_of_pos hblank, List.length_append, List.length_replicate]
    cases scan [] (text.toList.dropWhile (· == ' ')) with
    | none => rfl
    | some words =>
        cases words with
        | nil => rfl
        | cons word words =>
            simp only [Option.bind_eq_bind, Option.bind_some]
            cases head? (word :: words) <;> rfl

theorem lines?_cons {text : String} {texts : List String} {first rest : List (Line Call)}
    (h : line? text = some first) (h' : lines? texts = some rest) :
    lines? (text :: texts) = some (first ++ rest) := by
  rw [lines?, h, h']
  rfl

theorem exists_of_lines?_cons {text : String} {texts : List String} {ls : List (Line Call)}
    (h : lines? (text :: texts) = some ls) :
    ∃ first rest, line? text = some first ∧ lines? texts = some rest ∧ ls = first ++ rest := by
  rw [lines?] at h
  cases hfirst : line? text with
  | none =>
      rw [hfirst] at h
      cases h
  | some first =>
      cases hrest : lines? texts with
      | none =>
          rw [hfirst, hrest] at h
          cases h
      | some rest =>
          rw [hfirst, hrest] at h
          cases h
          exact ⟨first, rest, rfl, rfl, rfl⟩

theorem lines?_append {texts more : List String} {ls ms : List (Line Call)} (h : lines? texts = some ls)
    (h' : lines? more = some ms) : lines? (texts ++ more) = some (ls ++ ms) := by
  induction texts generalizing ls with
  | nil =>
      cases h
      exact h'
  | cons text texts ih =>
      obtain ⟨first, rest, hfirst, hrest, rfl⟩ := exists_of_lines?_cons h
      rw [List.cons_append, lines?_cons hfirst (ih hrest), List.append_assoc]

theorem lines?_indent (width : Nat) {texts : List String} {ls : List (Line Call)}
    (h : lines? texts = some ls) :
    lines? (texts.map (Transcript.indentLine width)) = some (ls.map (·.shift width)) := by
  induction texts generalizing ls with
  | nil =>
      cases h
      rfl
  | cons text texts ih =>
      obtain ⟨first, rest, hfirst, hrest, rfl⟩ := exists_of_lines?_cons h
      have hshifted : line? (Transcript.indentLine width text) = some (first.map (·.shift width)) := by
        rw [line?_indentLine, hfirst]
        rfl
      rw [List.map_cons, lines?_cons hshifted (ih hrest), List.map_append]

end TreeShape.Replay
