import TreeShape.Printer.Hooks
import TreeShape.Proofs.Attributes.Listed
import TreeShape.Proofs.Attributes.Literals
import TreeShape.Proofs.Replay.Finite

/-!
# What a dump of attributes sees

A dump tells of each node the attributes whose values have literals, and of each child the first access
that holds it.  `World.IsCandid` says when a node is as it looks: its table can be read, no stored
attribute is hidden behind a property, and nothing that is told is beyond words.  What is seen of such a
node is what reading its attributes gives, both the values that are told (`IsCandid.read_eq`) and the
children that are held (`IsCandid.readAccess_of_holder?`).

The program gathers the holders of all children at once, in a table from positions to texts in which the
first entry stays.  `lookup_holders` says that looking up a position there finds the first access that
holds the child; from then on there are accesses and no texts.
-/

namespace TreeShape

open Replay

/-! ## Reading attributes and items -/

/-- An attribute, or an item of the sequence that it holds. -/
structure Access where
  name : String
  index : Option Nat
  deriving DecidableEq, Repr

/-- How an access is written. -/
def Access.text (access : Access) : String :=
  access.name ++ ((access.index.map fun k => "[" ++ toString k ++ "]").getD "")

theorem Value.asNode?_eq_some_iff {v : Value} {m : Node} : v.asNode? = some m ↔ v = ofNode m := by
  constructor
  · intro h
    cases v <;> cases h <;> rfl
  · rintro rfl
    exact asNode?_ofNode m

/-- The item of a value at a position. -/
def Value.item (v : Value) (position : Nat) : Except Failure Value :=
  match v.elements?.bind (·[position]?) with
  | some item => .ok item
  | none => .error .noSuchItem

/-- The item of a value at a position; the value may be a node that is a sequence. -/
def World.item (w : World) (v : Value) (position : Nat) : Except Failure Value :=
  (w.opened v).item position

/-- What reading an attribute gives, or the item of what it gives. -/
def World.readAccess (w : World) (n : Node) (access : Access) : Except Failure Value := do
  let v ← w.read n access.name
  match access.index with
  | none => return v
  | some k => w.item v k

namespace AttributeDump

/-! ## What is told -/

/-- The attributes of a node whose values have literals. -/
def told (w : World) (n : Node) : List (String × Value) :=
  (attributesOf (plain w.hierarchy) w n).filter fun e => (e.2.literal? w.hierarchy).isSome

/-- The places that an attribute reaches, each with its access. -/
def places (w : World) (e : String × Value) : List (Value × Access) :=
  match (w.opened e.2).items? with
  | none => [(e.2, ⟨e.1, none⟩)]
  | some items => items.zipIdx.map fun item => (item.1, ⟨e.1, some item.2⟩)

/-- The first access of a node that holds the child at a position. -/
def holder? (s : Selection) (w : World) (children : List Node) (n : Node) (position : Nat) :
    Option Access :=
  (((attributesOf s w n).flatMap (places w)).find? fun place =>
    place.1.asNode?.bind (View.position? children) == some position).map (·.2)

/-- The style of a dump of attributes without hooks. -/
def usual (indent : Nat) (w : World) (v : View) : Transcript.Style :=
  style (plain w.hierarchy) w v (Transcript.plain indent w.typeNameOf)

/-- Without hooks, all attributes but the private ones are told. -/
theorem attributeStyle_default (indent : Nat) (a : Adapter) (w : World) :
    attributeStyle { indent := indent } {} a w = usual indent w (a.view w) := by
  have hselection : ({} : SelectionHooks).selection w.hierarchy = plain w.hierarchy := rfl
  rw [attributeStyle, hselection]
  simp only [TranscriptHooks.style, usual, style, Transcript.plain, List.lookup_nil, Option.getD_none,
    List.map_nil, List.append_nil, Option.map_none, String.empty_append]

theorem accesses_eq (w : World) (e : String × Value) :
    accesses w e.1 e.2 = (places w e).map fun place => (place.1, place.2.text) := by
  unfold accesses places
  cases (w.opened e.2).items? with
  | none => simp [Access.text]
  | some items =>
      simp only [List.map_map, Function.comp_def, Access.text, Option.map_some, Option.getD_some,
        ← String.append_assoc]

/-- Of the entries with one key, the first is kept. -/
theorem lookup_keepFirst (entries found : List (Int × String)) (i : Int) :
    (entries.foldl (fun found h => if found.any (·.1 == h.1) then found else found ++ [h])
      found).lookup i = (found.lookup i).or (entries.lookup i) := by
  induction entries generalizing found with
  | nil => simp
  | cons h entries ih =>
      obtain ⟨key, text⟩ := h
      have hany : found.any (·.1 == key) = (found.lookup key).isSome := by
        rw [Bool.eq_iff_iff, List.any_eq_true, List.lookup_isSome_iff]
        exact exists_congr fun e => and_congr_right fun _ => by rw [BEq.comm]
      rw [List.foldl_cons, ih]
      simp only [hany, List.lookup_cons]
      by_cases hkey : i = key
      · subst hkey
        cases hfound : found.lookup i <;> simp [hfound, List.lookup_append]
      · have hne : (i == key) = false := beq_eq_false_iff_ne.mpr hkey
        split <;> simp [List.lookup_append, List.lookup_cons, hne]

theorem held_eq (children : List Node) (v : Value) (text : String) :
    held children (v, text) =
      (v.asNode?.bind (View.position? children)).map fun k : Nat => ((k : Int), text) := by
  rw [held]
  cases v.asNode? with
  | none => rfl
  | some n =>
      simp only [Option.bind_some]
      cases View.position? children n <;> rfl

/-- The access that holds a child is the first that does. -/
theorem lookup_holders (s : Selection) (w : World) (children : List Node) (n : Node) (position : Nat) :
    (holders s w children n).lookup (position : Int) =
      (holder? s w children n position).map Access.text := by
  rw [holders, lookup_keepFirst, List.lookup_nil, Option.none_or, holder?]
  simp only [accesses_eq]
  rw [← List.map_flatMap]
  induction (attributesOf s w n).flatMap (places w) with
  | nil => rfl
  | cons place more ih =>
      rw [List.map_cons, List.filterMap_cons, List.find?_cons, held_eq]
      cases hplace : place.1.asNode?.bind (View.position? children) with
      | none => exact ih
      | some k =>
          by_cases hk : k = position
          · simp [hk]
          · have hne : ((position : Int) == (k : Int)) = false := by
              rw [beq_eq_false_iff_ne]
              omega
            have hne' : (some k == some position) = false := by simpa using hk
            rw [Option.map_some, hne', List.lookup_cons, hne]
            exact ih

/-- The assertions about a node are those of the attributes that are told. -/
theorem assertions_eq (w : World) (n : Node) (cursor : String) :
    assertions (plain w.hierarchy) w n cursor = (told w n).map fun e =>
      plainAssertion cursor e.1 e.2 ((e.2.literal? w.hierarchy).getD "") := by
  rw [assertions, told]
  induction attributesOf (plain w.hierarchy) w n with
  | nil => rfl
  | cons e more ih =>
      rw [List.filterMap_cons, List.filter_cons, ih]
      cases h : e.2.literal? w.hierarchy with
      | none => simp [plain, h]
      | some text => simp [plain, h]

end AttributeDump

/-! ## Candid nodes -/

namespace World

open AttributeDump

/-- A node is as it looks: its table can be read, no stored attribute is hidden behind a property of the
node's type or of a type above it, and the attributes that a dump sees have names that can be read and values
that can be told. -/
structure IsCandid (w : World) (n : Node) : Prop where
  table : w.tableRefusal n = none
  unshadowed : ∀ e ∈ (w.forest.attributes n).entries, w.hierarchy.property? (w.typeOf n) e.1 = none
  named : ∀ e ∈ attributesOf (plain w.hierarchy) w n, isIdentifier e.1 = true
  tellable : ∀ e ∈ attributesOf (plain w.hierarchy) w n, e.2.IsTellable w.hierarchy

variable {w : World} {n : Node} {e : String × Value}

/-- No public attribute that a candid node stores is hidden. -/
private theorem IsCandid.not_hides (h : w.IsCandid n) (he : e ∈ (w.forest.attributes n).entries)
    (hpublic : isPublic e.1 = true) : ¬ w.Hides n e.1 := by
  have hne : ∀ name : String, isPublic name = false → e.1 ≠ name := by
    rintro _ hprivate rfl
    rw [hpublic] at hprivate
    cases hprivate
  have hclass := hne classAttribute (by decide)
  have htable := hne tableAttribute (by decide)
  simp [Hides, h.unshadowed e he, ownAttribute?, hclass, htable]

/-- What a dump sees of a candid node is what reading its attributes gives. -/
theorem IsCandid.read_eq (h : w.IsCandid n) (he : e ∈ attributesOf (plain w.hierarchy) w n) :
    w.read n e.1 = .ok e.2 := by
  obtain ⟨hgathered, hpublic⟩ := mem_attributesOf_iff.mp he
  rcases read_of_mem_gathered hgathered with hread | heclipsed
  · exact hread
  · exact absurd heclipsed.hidden (h.not_hides (mem_attributes_of_mem_shown heclipsed.shown) hpublic)

/-- What a place holds is what its access leads to. -/
private theorem IsCandid.readAccess_eq (h : w.IsCandid n)
    (he : e ∈ attributesOf (plain w.hierarchy) w n) {place : Value × Access} (hplace : place ∈ places w e) :
    place.2.name = e.1 ∧ w.readAccess n place.2 = .ok place.1 := by
  have hread := h.read_eq he
  unfold places at hplace
  cases hitems : (w.opened e.2).items? with
  | none =>
      rw [hitems] at hplace
      obtain rfl := List.mem_singleton.mp hplace
      exact ⟨rfl, by simp [readAccess, hread]⟩
  | some items =>
      rw [hitems] at hplace
      obtain ⟨⟨item, k⟩, hitem, rfl⟩ := List.mem_map.mp hplace
      have helements : (w.opened e.2).elements? = some items := by
        cases hv : w.opened e.2 <;> simp_all [Value.items?, Value.elements?]
      have hget : w.item e.2 k = .ok item := by
        simp [World.item, Value.item, helements, List.mk_mem_zipIdx_iff_getElem?.mp hitem]
      exact ⟨rfl, by rw [readAccess, hread]; exact hget⟩

/-- The access of a candid node that holds a child leads to that child. -/
theorem IsCandid.readAccess_of_holder? (h : w.IsCandid n) {children : List Node} {position : Nat}
    {access : Access} (haccess : holder? (plain w.hierarchy) w children n position = some access) :
    isIdentifier access.name = true ∧
      ∃ m, children[position]? = some m ∧ w.readAccess n access = .ok (.ofNode m) := by
  obtain ⟨place, hfind, rfl⟩ := Option.map_eq_some_iff.mp haccess
  obtain ⟨e, he, hplace⟩ := List.mem_flatMap.mp (List.mem_of_find?_eq_some hfind)
  obtain ⟨hname, hread⟩ := h.readAccess_eq he hplace
  have hposition := List.find?_some hfind
  rw [beq_iff_eq, Option.bind_eq_some_iff] at hposition
  obtain ⟨m, hm, hindex⟩ := hposition
  have hvalue : place.1 = .ofNode m := Value.asNode?_eq_some_iff.mp hm
  have hchild : children[position]? = some m := by
    obtain ⟨hlt, hsame, -⟩ := List.findIdx?_eq_some_iff_getElem.mp hindex
    rw [List.getElem?_eq_getElem hlt, eq_of_beq hsame]
  exact ⟨hname ▸ h.named e he, m, hchild, hvalue ▸ hread⟩

end World

/-! ## The text of the dump -/

/-- The dump of the attributes of a finite tree, with its refusals. -/
theorem Tree.ShownBy.render_attributes_dump {a : Adapter} {w : World} {t : Tree}
    (h : t.ShownBy (a.view w)) (ht : t.Within (a.view w).height) (limit : DumpLimit) (serial indent : Nat) :
    (Printer.hookedAttributes serial a { indent := indent } {}).render w t.root limit =
      t.dump (AttributeDump.usual indent w (a.view w)) limit := by
  rw [← AttributeDump.attributeStyle_default]
  exact h.render_dump ht _ limit serial

/-- Where the tables can be read, the dump of the attributes of a finite tree is its transcript. -/
theorem Tree.ShownBy.render_attributes {a : Adapter} {w : World} {t : Tree}
    (h : t.ShownBy (a.view w)) (ht : t.Within (a.view w).height) {limit : DumpLimit}
    (htable : ∀ n, t.Shown limit n → w.tableRefusal n = none) (serial indent : Nat) :
    (Printer.hookedAttributes serial a { indent := indent } {}).render w t.root limit =
      .ok (Transcript.render (AttributeDump.usual indent w (a.view w)) limit t) := by
  rw [h.render_attributes_dump ht, Tree.dump_eq_render htable]

end TreeShape
