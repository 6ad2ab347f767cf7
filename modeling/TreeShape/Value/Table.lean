import TreeShape.Value.Basic

/-!
# Tables

Values under names.  A table has each name once, and says so itself: what is put under a name that is there
already takes the place of the old value, and what is put under a new name stands behind everything else.
-/

namespace TreeShape

/-- Values under names, each name once, in the order in which the names were first used. -/
structure Table where
  entries : List (String × Value)
  once : (entries.map Prod.fst).Nodup

namespace Table

def empty : Table := ⟨[], .nil⟩

instance : Inhabited Table := ⟨empty⟩

/-- The value under a name. -/
def lookup (t : Table) (name : String) : Option Value := t.entries.lookup name

/-- Adds an entry, or replaces the one of the same name where it stands. -/
def place (entries : List (String × Value)) (name : String) (v : Value) : List (String × Value) :=
  if entries.any (·.1 == name) then
    entries.map fun e => if e.1 == name then (name, v) else e
  else entries ++ [(name, v)]

/-- Whatever is placed among entries, each name stands there once. -/
theorem nodup_place {entries : List (String × Value)} (honce : (entries.map Prod.fst).Nodup)
    (name : String) (v : Value) : ((place entries name v).map Prod.fst).Nodup := by
  unfold place
  by_cases hany : entries.any (·.1 == name) = true
  · have hnames : (entries.map fun e => if e.1 == name then (name, v) else e).map Prod.fst =
        entries.map Prod.fst := by
      rw [List.map_map]
      refine List.map_congr_left fun e _ => ?_
      by_cases hsame : e.1 = name <;> simp [hsame]
    rw [if_pos hany]
    exact hnames ▸ honce
  · have hnew : name ∉ entries.map Prod.fst := by
      intro hmem
      obtain ⟨e, he, rfl⟩ := List.mem_map.mp hmem
      exact hany (List.any_eq_true.mpr ⟨e, he, beq_self_eq_true _⟩)
    rw [if_neg hany, List.map_append, List.map_singleton, List.nodup_append]
    refine ⟨honce, List.pairwise_singleton .., fun a ha b hb hab => hnew ?_⟩
    rw [List.mem_singleton] at hb
    rw [← show a = name from hab.trans hb]
    exact ha

/-- Puts a value under a name. -/
def put (t : Table) (name : String) (v : Value) : Table :=
  ⟨place t.entries name v, nodup_place t.once name v⟩

/-- Puts several values under names, one after the other. -/
def ofEntries (entries : List (String × Value)) : Table :=
  entries.foldl (fun t e => t.put e.1 e.2) empty

end Table

end TreeShape
