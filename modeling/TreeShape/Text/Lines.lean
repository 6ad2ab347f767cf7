/-!
# Lines of a text

A text cut at its line feeds.  There is always one line more than there are line feeds, so the empty
text has one empty line.  `join` puts the line feeds back, and cutting a joined text gives the lines of all
the texts it was joined from, `lines_join_eq_flatMap`.
-/

namespace TreeShape.Text

/-! ## Cutting -/

/-- The pieces of a list of characters between line feeds. -/
def cut : List Char → List (List Char)
  | [] => [[]]
  | c :: rest =>
    if c = '\n' then [] :: cut rest
    else match cut rest with
      | [] => [[c]]
      | first :: others => (c :: first) :: others

def lines (text : String) : List String := (cut text.toList).map String.ofList

theorem cut_ne_nil (cs : List Char) : cut cs ≠ [] := by
  cases cs with
  | nil => simp [cut]
  | cons c rest =>
    unfold cut
    split
    · simp
    · split <;> simp

theorem lines_ne_nil (text : String) : lines text ≠ [] := by
  simp [lines, cut_ne_nil]

/-- A piece without line feeds is all there is to cut. -/
theorem cut_of_not_mem {cs : List Char} (h : '\n' ∉ cs) : cut cs = [cs] := by
  induction cs with
  | nil => rfl
  | cons c rest ih =>
    obtain ⟨hc, hrest⟩ := not_or.mp (mt List.mem_cons.mpr h)
    simp [cut, ih hrest, Ne.symm hc]

/-- Every line feed ends a piece. -/
theorem cut_append_cons (cs rest : List Char) : cut (cs ++ '\n' :: rest) = cut cs ++ cut rest := by
  induction cs with
  | nil => simp [cut]
  | cons c more ih =>
    rw [List.cons_append, cut, cut]
    split
    · rw [ih, List.cons_append]
    · rw [ih]
      cases h : cut more with
      | nil => exact absurd h (cut_ne_nil more)
      | cons first others => rfl

/-- Cutting behind a piece without line feeds and one line feed. -/
theorem cut_append_newline {cs : List Char} (h : '\n' ∉ cs) (rest : List Char) :
    cut (cs ++ '\n' :: rest) = cs :: cut rest := by
  rw [cut_append_cons, cut_of_not_mem h, List.singleton_append]

/-- What has no line feed belongs to the first piece behind it. -/
theorem cut_append {cs rest first : List Char} {others : List (List Char)} (h : '\n' ∉ cs)
    (hrest : cut rest = first :: others) : cut (cs ++ rest) = (cs ++ first) :: others := by
  induction cs with
  | nil => exact hrest
  | cons c more ih =>
    obtain ⟨hc, hmore⟩ := not_or.mp (mt List.mem_cons.mpr h)
    rw [List.cons_append, cut, if_neg (Ne.symm hc), ih hmore]
    rfl

/-- No piece has a line feed. -/
theorem newline_not_mem_of_mem_cut {cs piece : List Char} (h : piece ∈ cut cs) : '\n' ∉ piece := by
  induction cs generalizing piece with
  | nil =>
    rw [List.mem_singleton.mp h]
    exact List.not_mem_nil
  | cons c more ih =>
    unfold cut at h
    split at h
    · rcases List.mem_cons.mp h with rfl | h
      · exact List.not_mem_nil
      · exact ih h
    · next hc =>
      split at h
      · rw [List.mem_singleton.mp h, List.mem_singleton]
        exact Ne.symm hc
      · next first others hmore =>
        rcases List.mem_cons.mp h with rfl | h
        · rw [List.mem_cons, not_or]
          exact ⟨Ne.symm hc, ih (hmore ▸ List.mem_cons_self)⟩
        · exact ih (hmore ▸ List.mem_cons_of_mem first h)

theorem newline_not_mem_of_mem_lines {text line : String} (h : line ∈ lines text) :
    '\n' ∉ line.toList := by
  obtain ⟨piece, hpiece, rfl⟩ := List.mem_map.mp h
  rw [String.toList_ofList]
  exact newline_not_mem_of_mem_cut hpiece

theorem lines_of_not_mem {text : String} (h : '\n' ∉ text.toList) : lines text = [text] := by
  rw [lines, cut_of_not_mem h, List.map_singleton, String.ofList_toList]

/-- What has no line feed belongs to the first line of the text behind it. -/
theorem lines_append {front text first : String} {others : List String}
    (hfront : '\n' ∉ front.toList) (h : lines text = first :: others) :
    lines (front ++ text) = (front ++ first) :: others := by
  obtain ⟨first, others, hcut, rfl, rfl⟩ := List.map_eq_cons_iff.mp h
  rw [lines, String.toList_append, cut_append hfront hcut, List.map_cons, String.ofList_append,
    String.ofList_toList]

/-- A number is written with digits only. -/
theorem isDigit_of_mem_toString {i : Nat} {c : Char} (hc : c ∈ (toString i).toList) : c.isDigit = true := by
  have hdigits : (toString i).toList = Nat.toDigits 10 i := by simp [toString, Nat.repr]
  rw [hdigits] at hc
  exact Nat.isDigit_of_mem_toDigits (by decide) (by decide) hc

theorem newline_not_mem_toString (i : Nat) : '\n' ∉ (toString i).toList := fun hmem =>
  absurd (isDigit_of_mem_toString hmem) (by decide)

/-! ## Joining -/

/-- Puts lines into one text, with a line feed between two of them. -/
def join : List String → String
  | [] => ""
  | [l] => l
  | l :: ls => l ++ "\n" ++ join ls

@[simp] theorem join_cons_cons (l m : String) (ls : List String) :
    join (l :: m :: ls) = l ++ "\n" ++ join (m :: ls) := rfl

/-- A joined text has the lines of all the texts it was joined from. -/
theorem lines_join_eq_flatMap {texts : List String} (hne : texts ≠ []) :
    lines (join texts) = texts.flatMap lines := by
  induction texts with
  | nil => exact absurd rfl hne
  | cons text rest ih =>
    cases rest with
    | nil => rw [join, List.flatMap_singleton]
    | cons next more =>
      have hnewline : "\n".toList = ['\n'] := rfl
      rw [List.flatMap_cons, ← ih (List.cons_ne_nil next more), join_cons_cons, lines,
        String.toList_append, String.toList_append, hnewline, List.append_assoc,
        List.singleton_append, cut_append_cons, List.map_append]
      rfl

/-- Lines without line feeds are found again in the joined text. -/
theorem lines_join {ls : List String} (hne : ls ≠ []) (h : ∀ l ∈ ls, '\n' ∉ l.toList) :
    lines (join ls) = ls := by
  have hmap : ls.map lines = ls.map fun l => [l] :=
    List.map_congr_left fun l hl => lines_of_not_mem (h l hl)
  rw [lines_join_eq_flatMap hne, List.flatMap_def, hmap, ← List.flatMap_def, List.flatMap_singleton']

end TreeShape.Text
