import Mathlib.Logic.Basic
import TreeShape.Adapter

/-!
# Supertypes

A type has its whole lineage for supertypes.  In a hierarchy that was made by declaring types, the
lineage of a type holds the lineages of all types on it, `Hierarchy.IsOrdered`.  So a node that counts
as an instance of a type counts as one of every supertype, by its own type or by the one that it claims,
and asking it is refused no more often.

A lineage is made by merging the lineages of the bases.  The order in which a merge takes the types
plays no part here, only that it takes all of them: each round takes at least one type off the lists
(`length_flatten_remove_lt`), so that the rounds suffice, and drops repetitions, but no type
(`mem_merge`).
-/

namespace TreeShape

/-! ## Merging -/

namespace Lineage

variable {t u : NodeType} {lists : List (List NodeType)}

/-- The next type of a merge stands on one of the lists. -/
theorem mem_flatten_of_next? (h : next? lists = some t) : t ∈ lists.flatten := by
  have hhead : t ∈ lists.filterMap List.head? := List.mem_of_find?_eq_some h
  obtain ⟨l, hl, ht⟩ := List.mem_filterMap.mp hhead
  exact List.mem_flatten.mpr ⟨l, hl, List.mem_of_head? ht⟩

/-- Taking a type off the front of the lists leaves all others on them. -/
theorem mem_flatten_remove (h : u ≠ t) : u ∈ (remove t lists).flatten ↔ u ∈ lists.flatten := by
  have htail : ∀ l : List NodeType, u ∈ (if l.head? = some t then l.tail else l) ↔ u ∈ l := by
    intro l
    split
    · next hhead =>
        obtain ⟨rest, rfl⟩ := List.head?_eq_some_iff.mp hhead
        simp [h]
    · exact Iff.rfl
  simp only [remove, List.mem_flatten, List.mem_map, exists_exists_and_eq_and, htail]

theorem length_flatten_remove_le (t : NodeType) (lists : List (List NodeType)) :
    (remove t lists).flatten.length ≤ lists.flatten.length := by
  induction lists with
  | nil => exact Nat.le_refl _
  | cons l lists ih =>
      have hfront : (if l.head? = some t then l.tail else l).length ≤ l.length := by
        split
        · rw [List.length_tail]
          omega
        · exact Nat.le_refl _
      simp only [remove, List.map_cons, List.flatten_cons, List.length_append] at ih ⊢
      omega

/-- Each round of a merge takes at least one type off the lists. -/
theorem length_flatten_remove_lt (h : next? lists = some t) :
    (remove t lists).flatten.length < lists.flatten.length := by
  have hhead : t ∈ lists.filterMap List.head? := List.mem_of_find?_eq_some h
  clear h
  induction lists with
  | nil => simp at hhead
  | cons l lists ih =>
      have hrest := length_flatten_remove_le t lists
      simp only [remove, List.map_cons, List.flatten_cons, List.length_append] at ih hrest ⊢
      by_cases hfront : l.head? = some t
      · obtain ⟨rest, rfl⟩ := List.head?_eq_some_iff.mp hfront
        simp only [List.head?_cons, if_true, List.tail_cons, List.length_cons]
        omega
      · have hlater : t ∈ lists.filterMap List.head? := by
          obtain ⟨l', hl', ht⟩ := List.mem_filterMap.mp hhead
          rcases List.mem_cons.mp hl' with rfl | hl'
          · exact absurd ht hfront
          · exact List.mem_filterMap.mpr ⟨l', hl', ht⟩
        rw [if_neg hfront]
        have := ih hlater
        omega

/-- A merge holds the types on its lists, and no others. -/
theorem mem_merge {fuel : Nat} (hfuel : lists.flatten.length ≤ fuel) :
    u ∈ merge fuel lists ↔ u ∈ lists.flatten := by
  induction fuel generalizing lists with
  | zero =>
      have hnil : lists.flatten = [] := List.length_eq_zero_iff.mp (Nat.le_zero.mp hfuel)
      rw [hnil, merge]
  | succ fuel ih =>
      unfold merge
      cases hnext : next? lists with
      | none => exact List.mem_eraseDups
      | some t =>
          have hlt := length_flatten_remove_lt hnext
          have hrest : u ∈ merge fuel (remove t lists) ↔ u ∈ (remove t lists).flatten :=
            ih (by omega)
          by_cases hu : u = t
          · subst hu
            exact iff_of_true List.mem_cons_self (mem_flatten_of_next? hnext)
          · calc u ∈ t :: merge fuel (remove t lists)
                ↔ u ∈ merge fuel (remove t lists) := by simp [hu]
              _ ↔ u ∈ (remove t lists).flatten := hrest
              _ ↔ u ∈ lists.flatten := mem_flatten_remove hu

end Lineage

/-! ## Hierarchies made by declaring types -/

/-- Only declared types stand on lineages, and what stands on the lineage of a supertype stands on that of
the type. -/
structure Hierarchy.IsOrdered (h : Hierarchy) : Prop where
  declared : ∀ {t u : NodeType}, u ∈ h.lineage t → u.number < h.types.size
  trans : ∀ {t u v : NodeType}, u ∈ h.lineage t → v ∈ h.lineage u → v ∈ h.lineage t

namespace Hierarchy

variable {h : Hierarchy} {t u : NodeType} {bases : List NodeType}

theorem isOrdered_empty : empty.IsOrdered where
  declared hu := by cases hu
  trans hu := by cases hu

/-- The lineage of a new type holds the type, its bases, and what stands on the lineages of these. -/
theorem mem_nextLineage : u ∈ h.nextLineage bases ↔
    u = ⟨h.types.size⟩ ∨ (∃ b ∈ bases, u ∈ h.lineage b) ∨ u ∈ bases := by
  unfold nextLineage
  rw [List.mem_cons, Lineage.mem_merge (Nat.le_refl _)]
  simp only [List.flatten_append, List.mem_append, List.mem_flatten, List.mem_map,
    exists_exists_and_eq_and, List.mem_singleton, exists_eq_left]

/-- Declaring a type leaves the lineages of the others. -/
theorem lineage_declare (h : Hierarchy) (bases : List NodeType) (info : TypeInfo) (t : NodeType) :
    (h.declare bases info).lineage t =
      if t = ⟨h.types.size⟩ then h.nextLineage bases else h.lineage t := by
  rcases t with ⟨number⟩
  by_cases hnumber : number = h.types.size
  · subst hnumber
    simp [declare, lineage, Hierarchy.info]
  · simp [declare, lineage, Hierarchy.info, Array.getElem?_push, hnumber]

/-- A type that is declared on declared bases keeps a hierarchy in order. -/
theorem IsOrdered.declare (hordered : h.IsOrdered) (info : TypeInfo)
    (hbases : ∀ b ∈ bases, b.number < h.types.size) : (h.declare bases info).IsOrdered := by
  have hsize : (h.declare bases info).types.size = h.types.size + 1 := Array.size_push ..
  -- Types declared before keep their lineage, and only the new one has them behind it.
  have hold : ∀ {u : NodeType}, u.number < h.types.size →
      (h.declare bases info).lineage u = h.lineage u := by
    intro u hu
    rw [lineage_declare, if_neg]
    rintro rfl
    exact Nat.lt_irrefl _ hu
  have hbelow : ∀ {u : NodeType}, (∃ b ∈ bases, u ∈ h.lineage b) ∨ u ∈ bases →
      u.number < h.types.size := by
    rintro u (⟨b, -, hu⟩ | hu)
    · exact hordered.declared hu
    · exact hbases u hu
  constructor
  · intro t u hu
    rw [lineage_declare] at hu
    rw [hsize]
    split at hu
    · rcases mem_nextLineage.mp hu with rfl | hu
      · exact Nat.lt_succ_self _
      · exact Nat.lt_succ_of_lt (hbelow hu)
    · exact Nat.lt_succ_of_lt (hordered.declared hu)
  · intro t u v hu hv
    rw [lineage_declare] at hu ⊢
    split at hu
    · next ht =>
        rw [if_pos ht]
        rcases mem_nextLineage.mp hu with rfl | hu
        · rwa [lineage_declare, if_pos rfl] at hv
        · rw [hold (hbelow hu)] at hv
          apply mem_nextLineage.mpr
          rcases hu with ⟨b, hb, hu⟩ | hu
          · exact .inr (.inl ⟨b, hb, hordered.trans hu hv⟩)
          · exact .inr (.inl ⟨u, hu, hv⟩)
    · next ht =>
        rw [if_neg ht]
        rw [hold (hordered.declared hu)] at hv
        exact hordered.trans hu hv

theorem IsOrdered.isSubtype_trans (hordered : h.IsOrdered) {v : NodeType}
    (htu : h.isSubtype t u = true) (huv : h.isSubtype u v = true) : h.isSubtype t v = true := by
  simp only [isSubtype, List.contains_iff_mem] at htu huv ⊢
  exact hordered.trans htu huv

end Hierarchy

/-! ## Instances -/

/-- Whether a node is an instance of a type is told as the world has it: adapters have no say in this. -/
structure Adapter.TellsTypes (a : Adapter) (w : World) : Prop where
  isInstance : ∀ n t, (a.view w).isInstance n t = w.countsAs n t
  refusal : ∀ n t, (a.view w).typeRefusal n t = w.claimRefusal n t

namespace Adapter

/-- The usual adapters have no say in what nodes are instances of. -/
theorem tellsTypes {a : Adapter} (h : a.IsUsual) (w : World) : a.TellsTypes w := by
  cases h <;> exact ⟨fun _ _ => rfl, fun _ _ => rfl⟩

end Adapter

namespace World

variable {w : World} {n : Node} {t u : NodeType}

/-- A node counts as an instance of a type, without being refused, by its own type or by the one that it
claims. -/
theorem counts_iff : w.claimRefusal n t = none ∧ w.countsAs n t = true ↔
    w.isInstance n t = true ∨
      ∃ claimed, w.declared? n classAttribute = some (.ok (.type claimed)) ∧
        w.hierarchy.isSubtype claimed t = true := by
  unfold claimRefusal countsAs
  cases w.isInstance n t with
  | true => simp
  | false =>
      rcases w.declared? n classAttribute with _ | f | v
      · simp
      · by_cases hf : f.kind = .attr <;> simp [hf]
      · cases v <;> simp

/-- What counts as an instance of a type counts as one of every supertype. -/
theorem counts_of_isSubtype (hordered : w.hierarchy.IsOrdered)
    (htu : w.hierarchy.isSubtype t u = true)
    (h : w.claimRefusal n t = none ∧ w.countsAs n t = true) :
    w.claimRefusal n u = none ∧ w.countsAs n u = true := by
  rw [counts_iff] at h ⊢
  rcases h with hown | ⟨claimed, hclaimed, hsub⟩
  · exact .inl (hordered.isSubtype_trans hown htu)
  · exact .inr ⟨claimed, hclaimed, hordered.isSubtype_trans hsub htu⟩

end World

/-- A node that is asked for it is an instance of every supertype of a type that it is an instance of. -/
theorem Adapter.TellsTypes.askType_of_isSubtype {a : Adapter} {w : World} {n : Node} {t u : NodeType}
    (htells : a.TellsTypes w) (hordered : w.hierarchy.IsOrdered)
    (htu : w.hierarchy.isSubtype t u = true) (h : (a.view w).askType n t = .ok true) :
    (a.view w).askType n u = .ok true := by
  have hask : ∀ t, (a.view w).askType n t = .ok true ↔
      w.claimRefusal n t = none ∧ w.countsAs n t = true := by
    intro t
    rw [View.askType, htells.refusal, htells.isInstance]
    cases w.claimRefusal n t <;> simp
  rw [hask] at h ⊢
  exact World.counts_of_isSubtype hordered htu h

end TreeShape
