import Mathlib.Data.List.Induction
import Mathlib.Data.List.Nodup
import TreeShape.AttributeDump
import TreeShape.Proofs.Sample

/-!
# The attributes that are listed

A dump lists the stored attributes of a node, with the readable properties of its own type put over
them.  Reading an attribute follows the whole lineage of the type instead, and never falls back to what
is stored once a property is found.  The two agree unless something hides a stored attribute that the
own type does not present: then the stored value is listed, although reading the attribute gives another
value or none.

`mem_gathered_iff` says what is gathered, and `mem_attributesOf_iff` what of it is listed.  A table has
each name once, so an entry is what looking its name up finds, and reading the attribute can be followed
from there: if nothing hides it, reading ends at what is stored (`read_of_mem_of_not_hides`); if the own
type presents it, the property was put over it.  What is left over are the entries that are
`IsEclipsed`, and the pair of gauges at the end has them.
-/

namespace TreeShape

/-! ## What is put into tables -/

namespace Table

variable {t : Table} {name : String} {v : Value} {e : String × Value}

theorem mem_put_iff : e ∈ (t.put name v).entries ↔ e = (name, v) ∨ e ∈ t.entries ∧ e.1 ≠ name := by
  have hput : (t.put name v).entries = place t.entries name v := rfl
  rw [hput, place]
  by_cases hany : t.entries.any (·.1 == name) = true
  · obtain ⟨old, hold, hname⟩ := List.any_eq_true.mp hany
    rw [if_pos hany, List.mem_map]
    constructor
    · rintro ⟨other, hother, rfl⟩
      by_cases hsame : other.1 = name
      · exact .inl (by simp [hsame])
      · exact .inr (by simpa [hsame] using hother)
    · rintro (rfl | ⟨he, hne⟩)
      · exact ⟨old, hold, by simp [hname]⟩
      · exact ⟨e, he, by simp [hne]⟩
  · have hne : e ∈ t.entries → e.1 ≠ name := by
      intro he hsame
      exact hany (List.any_eq_true.mpr ⟨e, he, by simp [hsame]⟩)
    rw [if_neg hany, List.mem_append, List.mem_singleton, or_comm, and_iff_left_of_imp hne]

/-- As a table has each name once, looking a name up finds every entry. -/
theorem lookup_of_mem (he : e ∈ t.entries) : t.lookup e.1 = some e.2 := by
  have honce := t.once
  obtain ⟨front, back, heq⟩ := List.append_of_mem he
  rw [heq, List.map_append, List.map_cons] at honce
  rw [lookup, heq, List.lookup_eq_some_iff]
  refine ⟨front, back, rfl, fun other hother => ?_⟩
  rw [bne_iff_ne]
  intro hsame
  exact (List.nodup_append.mp honce).2.2 _ (List.mem_map_of_mem hother) _ List.mem_cons_self hsame.symm

end Table

namespace World

variable {w : World} {n : Node} {name : String} {e : String × Value}

/-! ## Presented and hidden attributes -/

/-- The node's own type declares a property of this name, and it can be read. -/
def Presents (w : World) (n : Node) (name : String) : Prop :=
  name ∈ (w.hierarchy.info (w.typeOf n)).properties.map Prod.fst ∧ ∃ v, w.read n name = .ok v

/-- Reading this name does not reach what the node stores: a type on the lineage declares a property of the
name, or every node tells it of itself. -/
def Hides (w : World) (n : Node) (name : String) : Prop :=
  (w.hierarchy.property? (w.typeOf n) name).isSome ∨ (w.ownAttribute? n name).isSome

/-- What a node stores is read entry by entry. -/
theorem stored_of_mem (he : e ∈ (w.forest.attributes n).entries) : w.stored n e.1 = .ok e.2 := by
  rw [stored, Table.lookup_of_mem he]

/-- A stored attribute that nothing hides is what reading it gives. -/
theorem read_of_mem_of_not_hides (he : e ∈ (w.forest.attributes n).entries)
    (hplain : ¬ w.Hides n e.1) : w.read n e.1 = .ok e.2 := by
  unfold Hides at hplain
  rw [not_or, Option.not_isSome_iff_eq_none, Option.not_isSome_iff_eq_none] at hplain
  rw [read, hplain.1, hplain.2, stored_of_mem he]

end World

namespace AttributeDump

variable {w : World} {n : Node} {e : String × Value}

/-- A table shows what the node stores, or nothing. -/
theorem shown_eq (w : World) (n : Node) : shown w n = w.forest.attributes n ∨ shown w n = .empty := by
  unfold shown World.table
  split
  · next t htable =>
      split at htable
      · exact .inl (Except.ok.inj htable).symm
      · exact .inr (Except.ok.inj htable).symm
      · cases htable
      · split at htable
        · exact .inr (Except.ok.inj htable).symm
        · cases htable
  · exact .inr rfl

theorem mem_attributes_of_mem_shown (he : e ∈ (shown w n).entries) :
    e ∈ (w.forest.attributes n).entries := by
  rcases shown_eq w n with hshown | hshown
  · exact hshown ▸ he
  · rw [hshown] at he
    cases he

/-! ## What is gathered -/

/-- What is gathered is what reading a property of the own type gives, and what the table shows under every
other name and under those of the properties that cannot be read. -/
theorem mem_gathered_iff : e ∈ (gathered w n).entries ↔
    (e.1 ∈ (w.hierarchy.info (w.typeOf n)).properties.map Prod.fst ∧ w.read n e.1 = .ok e.2) ∨
      e ∈ (shown w n).entries ∧ ¬ w.Presents n e.1 := by
  unfold gathered World.Presents
  -- The properties are put in order, so the induction takes the last one off.
  induction (w.hierarchy.info (w.typeOf n)).properties using List.reverseRecOn with
  | nil => simp
  | append_singleton properties p ih =>
      rw [List.foldl_append, List.foldl_cons, List.foldl_nil, List.map_append, List.map_singleton]
      simp only [List.mem_append, List.mem_singleton]
      cases hread : w.read n p.1 with
      | ok v =>
          rw [Table.mem_put_iff, ih]
          by_cases hname : e.1 = p.1
          · have hv : e = (p.1, v) ↔ w.read n e.1 = .ok e.2 := by
              rw [hname, hread, Except.ok.injEq, Prod.ext_iff, eq_comm (a := v)]
              exact and_iff_right hname
            simp [hname, hread, hv]
          · have hne : e ≠ (p.1, v) := fun h => hname (congrArg Prod.fst h)
            simp [hname, hne]
      | error f =>
          rw [ih]
          by_cases hname : e.1 = p.1
          · simp [hname, hread]
          · simp [hname]

/-- Of what is gathered, what the selection takes is listed. -/
theorem mem_attributesOf_iff {s : Selection} :
    e ∈ attributesOf s w n ↔ e ∈ (gathered w n).entries ∧ s.takes n e.1 = true := by
  rw [attributesOf, (List.mergeSort_perm ..).mem_iff, List.mem_filter]

/-! ## The order of what is listed -/

theorem nodup_attributesOf (s : Selection) (w : World) (n : Node) :
    ((attributesOf s w n).map Prod.fst).Nodup := by
  have hperm : (attributesOf s w n).Perm ((gathered w n).entries.filter fun e => s.takes n e.1) :=
    List.mergeSort_perm ..
  rw [(hperm.map Prod.fst).nodup_iff]
  exact (gathered w n).once.sublist (List.filter_sublist.map Prod.fst)

/-- The listed attributes stand in the order of their names, each name once. -/
theorem pairwise_attributesOf (s : Selection) (w : World) (n : Node) :
    (attributesOf s w n).Pairwise fun a b => a.1 < b.1 := by
  have hsorted : (attributesOf s w n).Pairwise fun a b => a.1 ≤ b.1 := by
    have h := @List.pairwise_mergeSort (String × Value) (fun a b => decide (a.1 ≤ b.1))
      (fun a b c hab hbc => by simpa using String.le_trans (of_decide_eq_true hab) (of_decide_eq_true hbc))
      (fun a b => by simpa using String.le_total a.1 b.1)
      ((gathered w n).entries.filter fun e => s.takes n e.1)
    exact h.imp of_decide_eq_true
  have hapart : (attributesOf s w n).Pairwise fun a b => a.1 ≠ b.1 :=
    List.pairwise_map.mp (nodup_attributesOf s w n)
  exact (hsorted.and hapart).imp fun h => Std.lt_of_le_of_ne h.1 h.2

/-- Attributes in the order of their names are told by which they are. -/
theorem eq_of_mem_iff {xs ys : List (String × Value)} (hxs : xs.Pairwise fun a b => a.1 < b.1)
    (hys : ys.Pairwise fun a b => a.1 < b.1) (h : ∀ e, e ∈ xs ↔ e ∈ ys) : xs = ys := by
  have hdistinct : ∀ {zs : List (String × Value)}, zs.Pairwise (fun a b => a.1 < b.1) → zs.Nodup := by
    intro zs hzs
    refine List.Pairwise.imp ?_ hzs
    rintro a _ hlt rfl
    exact String.lt_irrefl a.1 hlt
  have hperm : xs.Perm ys := (List.perm_ext_iff_of_nodup (hdistinct hxs) (hdistinct hys)).mpr h
  exact hperm.eq_of_pairwise (fun a b _ _ hab hba => absurd hba (String.lt_asymm hab)) hxs hys

end AttributeDump

/-! ## A gauge -/

namespace Sample

/-- A type of nodes whose level is computed, and a type below it. -/
def gaugeHierarchy (level : Property) : Hierarchy where
  types := #[typeInfo "object" [.anything], typeInfo "NoneType" [.absence, .anything],
    typeInfo "Node" [.common, .anything],
    { typeInfo "Gauge" [⟨3⟩, .common, .anything] with properties := [("level", level)] },
    typeInfo "Meter" [⟨4⟩, ⟨3⟩, .common, .anything]]

def twoLevels : Property := .constant (.value (.int 2))

def noLevel : Property := .failing (.raised .value "unreadable" none none)

def gauge : Node := .object 0

def meter : Node := .object 1

/-- A gauge and a meter that store a level too. -/
def gauges (level : Property) : World where
  hierarchy := gaugeHierarchy level
  forest := ⟨#[{ type := ⟨3⟩, attributes := .ofEntries [("level", .int 1)] },
    { type := ⟨4⟩, attributes := .ofEntries [("level", .int 1)] }]⟩
  registries := []

end Sample

namespace AttributeDump

variable {w : World} {n : Node} {e : String × Value}

/-! ## What is listed -/

/-- An attribute that the table shows although reading its name leads elsewhere, and that the node's own type
does not present: a type above it declares the property, or the property cannot be read. -/
structure IsEclipsed (w : World) (n : Node) (e : String × Value) : Prop where
  shown : e ∈ (shown w n).entries
  hidden : w.Hides n e.1
  unpresented : ¬ w.Presents n e.1

theorem read_of_mem_gathered (he : e ∈ (gathered w n).entries) :
    w.read n e.1 = .ok e.2 ∨ IsEclipsed w n e := by
  obtain ⟨-, hread⟩ | ⟨hshown, hpresent⟩ := mem_gathered_iff.mp he
  · exact .inl hread
  · by_cases hhidden : w.Hides n e.1
    · exact .inr ⟨hshown, hhidden, hpresent⟩
    · exact .inl (World.read_of_mem_of_not_hides (mem_attributes_of_mem_shown hshown) hhidden)

theorem IsEclipsed.mem_gathered (h : IsEclipsed w n e) : e ∈ (gathered w n).entries :=
  mem_gathered_iff.mpr (.inr ⟨h.shown, h.unpresented⟩)

/-- An assertion is about an attribute that is listed. -/
theorem mem_assertions_iff {s : Selection} {cursor line : String} :
    line ∈ assertions s w n cursor ↔
      ∃ e ∈ attributesOf s w n, ∃ literal, s.literal e.2 = some literal ∧
        s.assertion cursor e.1 e.2 literal = line := by
  simp only [assertions, List.mem_filterMap, Option.map_eq_some_iff]

/-- Whatever a node stores and its types declare, each attribute that is listed or asserted is what reading
it gives, or is eclipsed: all are what reading gives exactly if the eclipsed ones among them happen to be. -/
theorem listed_reads_back (s : Selection) (w : World) (n : Node) (cursor : String) :
    (∀ e ∈ attributesOf s w n, w.read n e.1 = .ok e.2 ∨ IsEclipsed w n e) ∧
    ((∀ e ∈ attributesOf s w n, w.read n e.1 = .ok e.2) ↔
      ∀ e, IsEclipsed w n e → s.takes n e.1 = true → w.read n e.1 = .ok e.2) ∧
    ∀ line ∈ assertions s w n cursor, ∃ e ∈ attributesOf s w n,
      (∃ literal, s.literal e.2 = some literal ∧ s.assertion cursor e.1 e.2 literal = line) ∧
      (w.read n e.1 = .ok e.2 ∨ IsEclipsed w n e) := by
  have hlisted : ∀ e ∈ attributesOf s w n, w.read n e.1 = .ok e.2 ∨ IsEclipsed w n e := fun e he =>
    read_of_mem_gathered (mem_attributesOf_iff.mp he).1
  refine ⟨hlisted, ⟨fun hall e heclipsed htaken => ?_, fun heclipsed e he => ?_⟩, fun line hline => ?_⟩
  · exact hall e (mem_attributesOf_iff.mpr ⟨heclipsed.mem_gathered, htaken⟩)
  · rcases hlisted e he with hread | h
    · exact hread
    · exact heclipsed e h (mem_attributesOf_iff.mp he).2
  · obtain ⟨e, he, literal, hliteral, hline⟩ := mem_assertions_iff.mp hline
    exact ⟨e, he, ⟨literal, hliteral, hline⟩, hlisted e he⟩

/-- A stored level is listed and asserted although reading it fails, or gives the level of the type above. -/
theorem stale_levels_listed :
    ("level", .int 1) ∈ attributesOf (plain (Sample.gaugeHierarchy Sample.noLevel))
      (Sample.gauges Sample.noLevel) Sample.gauge ∧
    "assert it.node.level == 1" ∈ assertions (plain (Sample.gaugeHierarchy Sample.noLevel))
      (Sample.gauges Sample.noLevel) Sample.gauge "it" ∧
    (Sample.gauges Sample.noLevel).read Sample.gauge "level" =
      .error (.raised .value "unreadable" none none) ∧
    ("level", .int 1) ∈ attributesOf (plain (Sample.gaugeHierarchy Sample.twoLevels))
      (Sample.gauges Sample.twoLevels) Sample.meter ∧
    (Sample.gauges Sample.twoLevels).read Sample.meter "level" = .ok (.int 2) := by
  have htaken : isPublic "level" = true := by decide
  have hgauge : ("level", .int 1) ∈ attributesOf (plain (Sample.gaugeHierarchy Sample.noLevel))
      (Sample.gauges Sample.noLevel) Sample.gauge :=
    mem_attributesOf_iff.mpr ⟨List.mem_singleton.mpr rfl, htaken⟩
  have hmeter : ("level", .int 1) ∈ attributesOf (plain (Sample.gaugeHierarchy Sample.twoLevels))
      (Sample.gauges Sample.twoLevels) Sample.meter :=
    mem_attributesOf_iff.mpr ⟨List.mem_singleton.mpr rfl, htaken⟩
  have hline : plainAssertion "it" "level" (.int 1) "1" = "assert it.node.level == 1" := by decide
  exact ⟨hgauge, mem_assertions_iff.mpr ⟨_, hgauge, "1", by decide, hline⟩, rfl, hmeter, rfl⟩

end AttributeDump

end TreeShape
