import TreeShape.Outline
import TreeShape.Text.Lines

/-!
# Reading outlines

What an outline draws is a picture: a text with more pictures below it.  Here pictures are read back
from their drawings, whatever their texts are, as long as no text has a line feed: `read_render`.

* **A line.**  All strokes have the same width, so a line is read stroke by stroke.  The first fork ends
  the indent, since no stroke above it is one.  The number of strokes above is the depth of the line,
  and behind the fork comes the text, which may contain anything, forks included: `readLine?_line`.
* **The lines.**  The depths of the lines tell what is below what: to a line belong all those right
  behind it that are deeper.  The lines are put together from the last one on, `ofEntries`; whatever was
  put together behind a picture is not deeper than the picture, and stays apart from it,
  `ofEntries_entries`.
-/

namespace TreeShape.Outline

/-- What an outline draws. -/
inductive Picture where
  | node (label : String) (below : List Picture)

namespace Picture

mutual

/-- The lines of a picture that has the given others above it. -/
def lines (s : Strokes) (above : List Bool) (follows : Bool) : Picture → List String
  | .node label below =>
    (indent s above follows ++ label) :: linesOfAll s (above ++ [follows]) below

/-- The lines of siblings, in order; all but the last have a later one. -/
def linesOfAll (s : Strokes) (above : List Bool) : List Picture → List String
  | [] => []
  | p :: ps => lines s above (!ps.isEmpty) p ++ linesOfAll s above ps

end

/-- The drawing of a picture.  Every line ends in a line feed. -/
def render (s : Strokes) (p : Picture) : String :=
  String.join ((p.lines s [] false).map (· ++ "\n"))

/-! ## Depths -/

mutual

/-- The texts of a picture in the order of its lines, each with its depth. -/
def entries (depth : Nat) : Picture → List (Nat × String)
  | .node label below => (depth, label) :: entriesOfAll (depth + 1) below

def entriesOfAll (depth : Nat) : List Picture → List (Nat × String)
  | [] => []
  | p :: ps => entries depth p ++ entriesOfAll depth ps

end

theorem mem_entriesOfAll {e : Nat × String} {depth : Nat} {ps : List Picture} :
    e ∈ entriesOfAll depth ps ↔ ∃ p ∈ ps, e ∈ p.entries depth := by
  induction ps with
  | nil => simp [entriesOfAll]
  | cons p ps ih => simp [entriesOfAll, ih]

/-- Puts a text in front of pictures.  Those right behind it that are deeper come below it. -/
def attach (entry : Nat × String) (behind : List (Nat × Picture)) : List (Nat × Picture) :=
  (entry.1, .node entry.2 ((behind.takeWhile (entry.1 < ·.1)).map (·.2))) ::
    behind.dropWhile (entry.1 < ·.1)

/-- The pictures that texts make, with their depths. -/
def ofEntries (entries : List (Nat × String)) : List (Nat × Picture) := entries.foldr attach []

/-- A text comes in front of pictures of which the first are deeper and the next one is not. -/
theorem attach_append {depth : Nat} {label : String} {below : List Picture}
    {behind : List (Nat × Picture)} (hbehind : ∀ e ∈ behind.head?, e.1 ≤ depth) :
    attach (depth, label) (below.map (depth + 1, ·) ++ behind) =
      (depth, .node label below) :: behind := by
  have hdeeper : ∀ e ∈ below.map (depth + 1, ·), decide (depth < e.1) = true := by simp
  have htake : behind.takeWhile (depth < ·.1) = [] := by
    cases behind with
    | nil => rfl
    | cons e behind => simp [Nat.not_lt.mpr (hbehind e rfl)]
  have hdrop : behind.dropWhile (depth < ·.1) = behind := by
    cases behind with
    | nil => rfl
    | cons e behind => simp [Nat.not_lt.mpr (hbehind e rfl)]
  rw [attach, List.takeWhile_append_of_pos hdeeper, List.dropWhile_append_of_pos hdeeper, htake, hdrop,
    List.append_nil, List.map_map]
  simp [Function.comp_def]

mutual

/-- The texts of a picture make the picture, in front of all that is not deeper. -/
theorem ofEntries_entries (p : Picture) (depth : Nat) (rest : List (Nat × String))
    (hrest : ∀ e ∈ (ofEntries rest).head?, e.1 ≤ depth) :
    ofEntries (p.entries depth ++ rest) = (depth, p) :: ofEntries rest := by
  obtain ⟨label, below⟩ := p
  have hbelow := ofEntries_entriesOfAll below (depth + 1) rest
    fun e he => Nat.le_succ_of_le (hrest e he)
  rw [entries, List.cons_append, ofEntries, List.foldr_cons, ← ofEntries, hbelow,
    attach_append hrest]

theorem ofEntries_entriesOfAll (ps : List Picture) (depth : Nat) (rest : List (Nat × String))
    (hrest : ∀ e ∈ (ofEntries rest).head?, e.1 ≤ depth) :
    ofEntries (entriesOfAll depth ps ++ rest) = ps.map (depth, ·) ++ ofEntries rest := by
  cases ps with
  | nil => rfl
  | cons p ps =>
      have hmore := ofEntries_entriesOfAll ps depth rest hrest
      rw [entriesOfAll, List.append_assoc, ofEntries_entries p depth, hmore, List.map_cons,
        List.cons_append]
      -- What comes behind the first picture starts with a sibling, if with anything deeper than the rest.
      rw [hmore]
      cases ps with
      | nil => exact hrest
      | cons q ps => rintro _ ⟨⟩; exact Nat.le_refl depth

end

/-- The texts of a picture make the picture. -/
theorem ofEntries_entries_zero (p : Picture) : ofEntries (p.entries 0) = [(0, p)] := by
  have h := p.ofEntries_entries 0 [] nofun
  rwa [List.append_nil] at h

/-- It does not matter in which measure depths are given. -/
theorem ofEntries_map {f : Nat → Nat} (hf : ∀ {i j}, f i < f j ↔ i < j)
    (entries : List (Nat × String)) :
    ofEntries (entries.map fun e => (f e.1, e.2)) =
      (ofEntries entries).map fun e => (f e.1, e.2) := by
  have hattach : ∀ (entry : Nat × String) (behind : List (Nat × Picture)),
      attach (f entry.1, entry.2) (behind.map fun e => (f e.1, e.2)) =
        (attach entry behind).map fun e => (f e.1, e.2) := by
    intro entry behind
    simp only [attach, List.takeWhile_map, List.dropWhile_map, List.map_map, List.map_cons,
      Function.comp_def, hf]
  induction entries with
  | nil => rfl
  | cons entry entries ih =>
      calc ofEntries ((entry :: entries).map fun e => (f e.1, e.2))
          = attach (f entry.1, entry.2) (ofEntries (entries.map fun e => (f e.1, e.2))) := rfl
        _ = (attach entry (ofEntries entries)).map fun e => (f e.1, e.2) := by rw [ih, hattach]
        _ = (ofEntries (entry :: entries)).map fun e => (f e.1, e.2) := rfl

end Picture

/-! ## Lines -/

namespace Strokes

/-- The depth and the text of a line, which is read no further than a number of strokes. -/
def scan (s : Strokes) : Nat → List Char → Option (Nat × List Char)
  | 0, _ => none
  | strokes + 1, cs =>
    let stroke := String.ofList (cs.take s.fork.length)
    let rest := cs.drop s.fork.length
    if stroke = s.fork ∨ stroke = s.lastFork then some (0, rest)
    else if stroke = s.vertical ∨ stroke = s.blank then
      (s.scan strokes rest).map fun (depth, label) => (depth + 1, label)
    else none

/-- The depth and the text of a line. -/
def readLine? (s : Strokes) (line : String) : Option (Nat × String) :=
  (s.scan line.length line.toList).map fun (depth, label) => (depth, String.ofList label)

/-- The picture that a text is the drawing of. -/
def read (s : Strokes) (text : String) : Option Picture := do
  match Picture.ofEntries (← (Text.lines text).dropLast.mapM s.readLine?) with
  | [(0, p)] => some p
  | _ => none

/-- Strokes that can be read: all have the same positive width and no line feed, and a fork is no stroke
that stands below a node. -/
structure IsLegible (s : Strokes) : Prop where
  wide : 0 < s.fork.length
  lastFork : s.lastFork.length = s.fork.length
  vertical : s.vertical.length = s.fork.length
  blank : s.blank.length = s.fork.length
  unbroken : ∀ stroke ∈ [s.fork, s.lastFork, s.vertical, s.blank], '\n' ∉ stroke.toList
  apart : ∀ fork ∈ [s.fork, s.lastFork], fork ≠ s.vertical ∧ fork ≠ s.blank

theorem isLegible_ascii : ascii.IsLegible := by
  constructor <;> decide

theorem isLegible_boxes : boxes.IsLegible := by
  constructor <;> decide

variable {s : Strokes}

/-- The next stroke of a line is read. -/
theorem scan_append {strokes : Nat} {stroke : String} (hstroke : stroke.length = s.fork.length)
    (rest : List Char) :
    s.scan (strokes + 1) (stroke.toList ++ rest) =
      if stroke = s.fork ∨ stroke = s.lastFork then some (0, rest)
      else if stroke = s.vertical ∨ stroke = s.blank then
        (s.scan strokes rest).map fun (depth, label) => (depth + 1, label)
      else none := by
  have hlength : stroke.toList.length = s.fork.length := by rw [String.length_toList, hstroke]
  rw [scan, List.take_left' hlength, List.drop_left' hlength, String.ofList_toList]

theorem IsLegible.length_fork (hs : s.IsLegible) (follows : Bool) :
    (if follows then s.fork else s.lastFork).length = s.fork.length := by
  cases follows
  · exact hs.lastFork
  · rfl

theorem IsLegible.length_below (hs : s.IsLegible) (follows : Bool) :
    (if follows then s.vertical else s.blank).length = s.fork.length := by
  cases follows
  · exact hs.blank
  · exact hs.vertical

theorem IsLegible.ne_fork (hs : s.IsLegible) (follows : Bool) :
    ¬ ((if follows then s.vertical else s.blank) = s.fork ∨
      (if follows then s.vertical else s.blank) = s.lastFork) := by
  have hfork := hs.apart s.fork (by simp)
  have hlast := hs.apart s.lastFork (by simp)
  cases follows
  · exact not_or.mpr ⟨hfork.2.symm, hlast.2.symm⟩
  · exact not_or.mpr ⟨hfork.1.symm, hlast.1.symm⟩

/-- The strokes of a line, the first one apart. -/
theorem indent_cons (s : Strokes) (f : Bool) (above : List Bool) (follows : Bool) :
    indent s (f :: above) follows =
      (if f then s.vertical else s.blank) ++ indent s above follows := by
  rw [indent, List.map_cons, String.join_cons, String.append_assoc, ← indent]

theorem indent_nil (s : Strokes) (follows : Bool) :
    indent s [] follows = if follows then s.fork else s.lastFork := by
  rw [indent, List.map_nil, String.join_nil, String.empty_append]

/-- A line is read as what has been drawn. -/
theorem IsLegible.scan_indent (hs : s.IsLegible) (above : List Bool) (follows : Bool) (label : String)
    {strokes : Nat} (hstrokes : above.length < strokes) :
    s.scan strokes (indent s above follows ++ label).toList = some (above.length, label.toList) := by
  induction above generalizing strokes with
  | nil =>
      obtain ⟨strokes, rfl⟩ := Nat.exists_eq_succ_of_ne_zero (Nat.ne_of_gt hstrokes)
      have hfork : (if follows then s.fork else s.lastFork) = s.fork ∨
          (if follows then s.fork else s.lastFork) = s.lastFork := by cases follows <;> simp
      rw [indent_nil, String.toList_append, scan_append (hs.length_fork follows), if_pos hfork]
      rfl
  | cons f above ih =>
      obtain ⟨strokes, rfl⟩ := Nat.exists_eq_succ_of_ne_zero (Nat.ne_of_gt (Nat.zero_lt_of_lt hstrokes))
      have hbelow : (if f then s.vertical else s.blank) = s.vertical ∨
          (if f then s.vertical else s.blank) = s.blank := by cases f <;> simp
      rw [indent_cons, String.append_assoc, String.toList_append, scan_append (hs.length_below f),
        if_neg (hs.ne_fork f), if_pos hbelow, ih (Nat.lt_of_succ_lt_succ hstrokes)]
      rfl

/-- A line has a stroke for each node above it, and a fork. -/
theorem IsLegible.length_indent (hs : s.IsLegible) (above : List Bool) (follows : Bool) :
    above.length < (indent s above follows).length := by
  have hwide := hs.wide
  induction above with
  | nil => rwa [indent_nil, hs.length_fork]
  | cons f above ih =>
      rw [indent_cons, String.length_append, hs.length_below, List.length_cons]
      omega

theorem IsLegible.readLine?_line (hs : s.IsLegible) (above : List Bool) (follows : Bool)
    (label : String) :
    s.readLine? (indent s above follows ++ label) = some (above.length, label) := by
  have hlength : above.length < (indent s above follows ++ label).length := by
    rw [String.length_append]
    exact Nat.lt_add_right _ (hs.length_indent above follows)
  simp only [readLine?, hs.scan_indent above follows label hlength, Option.map_some,
    String.ofList_toList]

/-- Strokes break no line. -/
theorem IsLegible.not_mem_indent (hs : s.IsLegible) (above : List Bool) (follows : Bool) :
    '\n' ∉ (indent s above follows).toList := by
  induction above with
  | nil =>
      rw [indent_nil]
      cases follows <;> exact hs.unbroken _ (by simp)
  | cons f above ih =>
      have hbelow : '\n' ∉ (if f then s.vertical else s.blank).toList := by
        cases f <;> exact hs.unbroken _ (by simp)
      rw [indent_cons, String.toList_append, List.mem_append]
      exact not_or.mpr ⟨hbelow, ih⟩

mutual

/-- The lines of a picture are read as its texts. -/
theorem IsLegible.mapM_lines (hs : s.IsLegible) (above : List Bool) (follows : Bool) (p : Picture) :
    (p.lines s above follows).mapM s.readLine? = some (p.entries above.length) := by
  obtain ⟨label, below⟩ := p
  have hbelow := hs.mapM_linesOfAll (above ++ [follows]) below
  rw [List.length_append, List.length_singleton] at hbelow
  rw [Picture.lines, List.mapM_cons, hs.readLine?_line, hbelow]
  rfl

theorem IsLegible.mapM_linesOfAll (hs : s.IsLegible) (above : List Bool) (ps : List Picture) :
    (Picture.linesOfAll s above ps).mapM s.readLine? = some (Picture.entriesOfAll above.length ps) := by
  cases ps with
  | nil => rfl
  | cons p ps =>
      rw [Picture.linesOfAll, List.mapM_append, hs.mapM_lines, hs.mapM_linesOfAll above ps]
      rfl

end

mutual

/-- No line of a picture is broken if no text is. -/
theorem IsLegible.not_mem_lines (hs : s.IsLegible) (above : List Bool) (follows : Bool) (p : Picture)
    (hp : ∀ e ∈ p.entries above.length, '\n' ∉ e.2.toList) :
    ∀ line ∈ p.lines s above follows, '\n' ∉ line.toList := by
  obtain ⟨label, below⟩ := p
  obtain ⟨hlabel, hbelow⟩ := List.forall_mem_cons.mp hp
  rw [Picture.lines, List.forall_mem_cons]
  constructor
  · rw [String.toList_append, List.mem_append]
    exact not_or.mpr ⟨hs.not_mem_indent above follows, hlabel⟩
  · refine hs.not_mem_linesOfAll (above ++ [follows]) below ?_
    rwa [List.length_append, List.length_singleton]

theorem IsLegible.not_mem_linesOfAll (hs : s.IsLegible) (above : List Bool) (ps : List Picture)
    (hps : ∀ e ∈ Picture.entriesOfAll above.length ps, '\n' ∉ e.2.toList) :
    ∀ line ∈ Picture.linesOfAll s above ps, '\n' ∉ line.toList := by
  cases ps with
  | nil => exact nofun
  | cons p ps =>
      rw [Picture.entriesOfAll, List.forall_mem_append] at hps
      rw [Picture.linesOfAll, List.forall_mem_append]
      exact ⟨hs.not_mem_lines above _ p hps.1, hs.not_mem_linesOfAll above ps hps.2⟩

end

/-! ## Texts -/

/-- Lines that each end in a line feed are found again in front of an empty one. -/
theorem lines_terminated {lines : List String} (h : ∀ line ∈ lines, '\n' ∉ line.toList) :
    Text.lines (String.join (lines.map (· ++ "\n"))) = lines ++ [""] := by
  induction lines with
  | nil => rfl
  | cons line lines ih =>
      obtain ⟨hline, hlines⟩ := List.forall_mem_cons.mp h
      have hrest := ih hlines
      rw [Text.lines] at hrest ⊢
      have hnewline : "\n".toList = ['\n'] := rfl
      rw [List.map_cons, String.join_cons, String.toList_append, String.toList_append, hnewline,
        List.append_assoc, List.singleton_append, Text.cut_append_newline hline, List.map_cons, hrest,
        String.ofList_toList, List.cons_append]

/-- A picture is read back from its drawing. -/
theorem IsLegible.read_render (hs : s.IsLegible) {p : Picture}
    (hp : ∀ e ∈ p.entries 0, '\n' ∉ e.2.toList) : s.read (p.render s) = some p := by
  have hlines : (p.lines s [] false).mapM s.readLine? = some (p.entries 0) := hs.mapM_lines [] false p
  rw [read, Picture.render, lines_terminated (hs.not_mem_lines [] false p hp), List.dropLast_concat, hlines]
  simp only [Option.bind_eq_bind, Option.bind_some, p.ofEntries_entries_zero]

end Strokes

end TreeShape.Outline
