import TreeShape.Proofs.Attributes.Dumped

/-!
# Children and the attributes that hold them

A dump tells of a child by which access it is held: an attribute that is the child, or an item of the list or
the tuple that an attribute is.  Accesses are ordered by the names of their attributes, and those of one
attribute by position; a child ought to be held by the first access that leads to it.

## Strategy

* Listed attributes have each name once and stand in the order of their names, `pairwise_attributesOf`.  So
  all accesses that lead anywhere are in order as well, `pairwise_flatMap_reached`, and there is a first one
  among those that lead to a node, `exists_isFirst`.
* A dump goes through fewer accesses.  What is a list or a tuple is gone through item by item and is not
  compared with the children itself, although a node may be one.  The accesses that are left are those that
  *reach* a value, `mem_flatMap_places_iff`, and a child is held by the first that reaches it,
  `holding_reaches`.
* Both coincide exactly if no child that is a list or a tuple is first held as a whole, `holding_leads_iff`.
* What is printed is the text of the access.  A text can be mistaken for another access only where the name of
  an attribute looks like an item of another one, `Access.text_eq_text_iff`.

What a node claims to be equal to plays no part: a child is told apart from others by what it is.
-/

namespace TreeShape

/-! ## Accesses and their order -/

namespace Access

variable {a b : Access}

/-- One access comes before another: by the names of the attributes, and within one attribute by position.
The attribute itself comes before its items. -/
def Before (a b : Access) : Prop :=
  a.name < b.name ∨ a.name = b.name ∧ ∃ j, b.index = some j ∧ ∀ i ∈ a.index, i < j

theorem Before.asymm (h : a.Before b) : ¬ b.Before a := by
  rintro (hlt | ⟨heq, i, hi, hbelow⟩)
  · rcases h with hlt' | ⟨heq, -⟩
    · exact String.lt_asymm hlt hlt'
    · exact String.lt_irrefl _ (heq ▸ hlt)
  · rcases h with hlt | ⟨-, j, hj, habove⟩
    · exact String.lt_irrefl _ (heq ▸ hlt)
    · exact Nat.lt_asymm (habove i hi) (hbelow j hj)

/-- The first of the accesses of which something holds. -/
structure IsFirst (holds : Access → Prop) (a : Access) : Prop where
  self : holds a
  first : ∀ b, holds b → b = a ∨ a.Before b

theorem IsFirst.unique {holds : Access → Prop} (ha : IsFirst holds a) (hb : IsFirst holds b) : a = b := by
  rcases hb.first a ha.self with heq | hbefore
  · exact heq
  · rcases ha.first b hb.self with heq | hafter
    · exact heq.symm
    · exact absurd hbefore hafter.asymm

/-! ### How accesses are written -/

/-- The last occurrence of a character parts a text in one way only. -/
private theorem eq_of_last {c : Char} {front front' back back' : List Char} (hback : c ∉ back)
    (hback' : c ∉ back') (h : front ++ c :: back = front' ++ c :: back') :
    front = front' ∧ back = back' := by
  rcases List.append_eq_append_iff.mp h with ⟨between, rfl, hsplit⟩ | ⟨between, rfl, hsplit⟩
  · cases between with
    | nil => exact ⟨(List.append_nil _).symm, (List.cons.inj hsplit).2⟩
    | cons _ between =>
        obtain ⟨-, rfl⟩ := List.cons.inj hsplit
        exact absurd (List.mem_append_right between List.mem_cons_self) hback
  · cases between with
    | nil => exact ⟨List.append_nil _, (List.cons.inj hsplit).2.symm⟩
    | cons _ between =>
        obtain ⟨-, rfl⟩ := List.cons.inj hsplit
        exact absurd (List.mem_append_right between List.mem_cons_self) hback'

/-- Items are told apart by how they are written. -/
private theorem eq_of_item_text_eq {name name' : String} {i j : Nat}
    (h : (⟨name, some i⟩ : Access).text = (⟨name', some j⟩ : Access).text) : name = name' ∧ i = j := by
  have hlist : ∀ (name : String) (k : Nat), (⟨name, some k⟩ : Access).text.toList =
      name.toList ++ '[' :: ((toString k).toList ++ [']']) := by
    intro name k
    have hopen : "[".toList = ['['] := rfl
    have hclose : "]".toList = [']'] := rfl
    simp only [text, Option.map_some, Option.getD_some, String.toList_append, hopen, hclose,
      List.cons_append, List.nil_append]
  have hbracket : ∀ k : Nat, '[' ∉ (toString k).toList ++ [']'] := by
    intro k hmem
    rcases List.mem_append.mp hmem with hmem | hmem
    · exact absurd (Text.isDigit_of_mem_toString hmem) (by decide)
    · exact absurd (List.mem_singleton.mp hmem) (by decide)
  have htext := congrArg String.toList h
  rw [hlist, hlist] at htext
  obtain ⟨hname, hdigits⟩ := eq_of_last (hbracket i) (hbracket j) htext
  exact ⟨String.toList_inj.mp hname,
    eq_of_toString_eq (String.toList_inj.mp (List.append_cancel_right hdigits))⟩

/-- Two accesses are written alike if they are the same, or if one is an attribute that is called what the
other, an item, is written like. -/
theorem text_eq_text_iff : a.text = b.text ↔ a = b ∨
    (a.index = none ∧ b.index ≠ none ∧ a.name = b.text) ∨
      (b.index = none ∧ a.index ≠ none ∧ b.name = a.text) := by
  have hname : ∀ name : String, (⟨name, none⟩ : Access).text = name := fun name =>
    String.append_empty
  obtain ⟨name, _ | i⟩ := a <;> obtain ⟨name', _ | j⟩ := b
  · simp [hname]
  · simp [hname]
  · simp [hname, eq_comm]
  · constructor
    · intro h
      obtain ⟨rfl, rfl⟩ := eq_of_item_text_eq h
      exact .inl rfl
    · rintro (h | h | h)
      · rw [h]
      · cases h.1
      · cases h.1

end Access

/-- A value is a list or a tuple, be it a node at the same time. -/
def World.IsSequence (w : World) (v : Value) : Prop := ∃ items, (w.opened v).items? = some items

namespace AttributeDump

/-! ## What accesses lead to -/

/-- What an access leads to among listed attributes: the value of an attribute, or an item of the list or the
tuple that this value is. -/
def Leads (w : World) (attributes : List (String × Value)) (access : Access) (v : Value) : Prop :=
  ∃ u, (access.name, u) ∈ attributes ∧ match access.index with
    | none => u = v
    | some k => ∃ items, (w.opened u).items? = some items ∧ items[k]? = some v

/-- An access leads to a value, and is not an attribute that would have to be gone through item by item. -/
def Reaches (w : World) (attributes : List (String × Value)) (access : Access) (v : Value) : Prop :=
  Leads w attributes access v ∧ (access.index = none → ¬ w.IsSequence v)

/-- The accesses by which children are held, where `leads` says what an access leads to. -/
structure Holding (leads : Access → Value → Prop) (children : List Node) (held : Nat → Option Access) :
    Prop where
  /-- A position has an access just if it is the first of its child and some access leads to the child. -/
  mapped : ∀ position, (∃ access, held position = some access) ↔
    ∃ m, children[position]? = some m ∧ m ∉ children.take position ∧ ∃ access, leads access (.ofNode m)
  /-- The access is the first one that leads to the child. -/
  first : ∀ position access, held position = some access →
    ∃ m, children[position]? = some m ∧ Access.IsFirst (leads · (.ofNode m)) access

/-- Each access denotes the child at its position, and nothing else. -/
def Denotes (w : World) (attributes : List (String × Value)) (children : List Node)
    (held : Nat → Option Access) : Prop :=
  ∀ position access, held position = some access →
    ∀ v, Leads w attributes access v ↔ ∃ m, children[position]? = some m ∧ v = .ofNode m

/-- Whichever access the text of one is taken for, it leads to the same value or nowhere. -/
def Unmistakable (w : World) (attributes : List (String × Value)) (held : Nat → Option Access) : Prop :=
  ∀ position access, held position = some access → ∀ other u v, other.text = access.text →
    Leads w attributes other u → Leads w attributes access v → u = v

/-- An attribute is called what an item of another one is written like, and is something else. -/
def Clash (w : World) (attributes : List (String × Value)) (text : String) : Prop :=
  ∃ item u v, item.index ≠ none ∧ item.text = text ∧ Leads w attributes item u ∧ (text, v) ∈ attributes ∧
    u ≠ v

/-- The first access to a child is an attribute that is the child. -/
def IsHeldWhole (w : World) (attributes : List (String × Value)) (m : Node) : Prop :=
  ∃ name, Access.IsFirst (Leads w attributes · (.ofNode m)) ⟨name, none⟩

variable {s : Selection} {w : World} {n m : Node} {e : String × Value} {access : Access} {u v : Value}
  {attributes : List (String × Value)} {children : List Node} {held : Nat → Option Access}

/-- Where each name stands once, an access leads to one value. -/
theorem Leads.unique (honce : (attributes.map Prod.fst).Nodup) (hu : Leads w attributes access u)
    (hv : Leads w attributes access v) : u = v := by
  obtain ⟨x, hx, hu⟩ := hu
  obtain ⟨y, hy, hv⟩ := hv
  obtain ⟨-, rfl⟩ := Prod.mk.inj (List.inj_on_of_nodup_map honce hx hy rfl)
  cases hindex : access.index with
  | none =>
      rw [hindex] at hu hv
      exact hu.symm.trans hv
  | some k =>
      rw [hindex] at hu hv
      obtain ⟨items, hitems, hu⟩ := hu
      obtain ⟨_, hitems', hv⟩ := hv
      obtain rfl := Option.some.inj (hitems.symm.trans hitems')
      exact Option.some.inj (hu.symm.trans hv)

/-! ## The accesses through attributes -/

/-- The accesses through an attribute, with what they lead to: the attribute itself, then its items. -/
def reached (w : World) (e : String × Value) : List (Value × Access) :=
  (e.2, ⟨e.1, none⟩) ::
    ((w.opened e.2).items?.getD []).zipIdx.map fun item => (item.1, ⟨e.1, some item.2⟩)

theorem mem_reached_iff : (v, access) ∈ reached w e ↔ access.name = e.1 ∧ match access.index with
    | none => e.2 = v
    | some k => ∃ items, (w.opened e.2).items? = some items ∧ items[k]? = some v := by
  obtain ⟨name, _ | k⟩ := access
  · simp [reached, eq_comm, and_comm]
  · have hitem : (∃ items, (w.opened e.2).items? = some items ∧ items[k]? = some v) ↔
        ((w.opened e.2).items?.getD [])[k]? = some v := by
      cases (w.opened e.2).items? <;> simp
    simp only [reached, List.mem_cons, Prod.mk.injEq, Access.mk.injEq, reduceCtorEq, and_false, false_or,
      List.mem_map, Prod.exists, Option.some.injEq, List.mk_mem_zipIdx_iff_getElem?, hitem]
    constructor
    · rintro ⟨_, _, hget, rfl, rfl, rfl⟩
      exact ⟨rfl, hget⟩
    · rintro ⟨rfl, hget⟩
      exact ⟨v, k, hget, rfl, rfl, rfl⟩

theorem mem_flatMap_reached_iff :
    (v, access) ∈ attributes.flatMap (reached w) ↔ Leads w attributes access v := by
  simp only [List.mem_flatMap, mem_reached_iff]
  constructor
  · rintro ⟨⟨_, u⟩, he, rfl, hleads⟩
    exact ⟨u, he, hleads⟩
  · rintro ⟨u, he, hleads⟩
    exact ⟨_, he, rfl, hleads⟩

theorem pairwise_reached (w : World) (e : String × Value) :
    (reached w e).Pairwise fun a b => a.2.Before b.2 := by
  refine List.pairwise_cons.mpr ⟨fun place hplace => ?_, ?_⟩
  · obtain ⟨item, -, rfl⟩ := List.mem_map.mp hplace
    exact .inr ⟨rfl, item.2, rfl, nofun⟩
  · have hpositions : (((w.opened e.2).items?.getD []).zipIdx.map Prod.snd).Pairwise (· < ·) := by
      rw [List.zipIdx_map_snd]
      exact List.pairwise_lt_range' _
    rw [List.pairwise_map]
    refine (List.pairwise_map.mp hpositions).imp fun hlt => .inr ⟨rfl, _, rfl, ?_⟩
    rintro i ⟨⟩
    exact hlt

/-- The accesses through attributes in order are in order. -/
theorem pairwise_flatMap_reached (h : attributes.Pairwise fun a b => a.1 < b.1) :
    (attributes.flatMap (reached w)).Pairwise fun a b => a.2.Before b.2 := by
  rw [List.pairwise_flatMap]
  refine ⟨fun e _ => pairwise_reached w e, h.imp fun hlt x hx y hy => .inl ?_⟩
  rw [(mem_reached_iff.mp hx).1, (mem_reached_iff.mp hy).1]
  exact hlt

/-- A dump goes through all accesses but the attributes that are lists or tuples. -/
theorem places_sublist (w : World) (e : String × Value) : (places w e).Sublist (reached w e) := by
  unfold places reached
  cases (w.opened e.2).items? with
  | none => exact .refl _
  | some items => exact List.sublist_cons_self ..

theorem mem_places_iff : (v, access) ∈ places w e ↔
    (v, access) ∈ reached w e ∧ (access.index = none → ¬ w.IsSequence v) := by
  unfold places World.IsSequence
  obtain ⟨name, _ | k⟩ := access
  · cases hitems : (w.opened e.2).items? with
    | none =>
        simp only [reached, hitems, Option.getD_none, List.zipIdx_nil, List.map_nil, List.mem_singleton]
        refine (and_iff_left_of_imp ?_).symm
        rintro heq -
        obtain ⟨rfl, -⟩ := Prod.mk.inj heq
        simp [hitems]
    | some items =>
        have hnot : (v, (⟨name, none⟩ : Access)) ∉ items.zipIdx.map fun item =>
            (item.1, (⟨e.1, some item.2⟩ : Access)) := by
          simp
        refine iff_of_false hnot ?_
        rintro ⟨hmem, hwhole⟩
        obtain ⟨-, rfl⟩ := mem_reached_iff.mp hmem
        exact hwhole rfl ⟨items, hitems⟩
  · cases hitems : (w.opened e.2).items? with
    | none => simp [mem_reached_iff, hitems]
    | some items => simp [reached, hitems]

/-- The places that attributes reach are those that accesses reach. -/
theorem mem_flatMap_places_iff :
    (v, access) ∈ attributes.flatMap (places w) ↔ Reaches w attributes access v := by
  rw [Reaches, ← mem_flatMap_reached_iff]
  simp only [List.mem_flatMap, mem_places_iff]
  constructor
  · rintro ⟨e, he, hplace, hwhole⟩
    exact ⟨⟨e, he, hplace⟩, hwhole⟩
  · rintro ⟨⟨e, he, hplace⟩, hwhole⟩
    exact ⟨e, he, hplace, hwhole⟩

theorem pairwise_flatMap_places (h : attributes.Pairwise fun a b => a.1 < b.1) :
    (attributes.flatMap (places w)).Pairwise fun a b => a.2.Before b.2 := by
  have hsublist : ∀ es : List (String × Value), (es.flatMap (places w)).Sublist (es.flatMap (reached w)) := by
    intro es
    induction es with
    | nil => exact .refl _
    | cons e es ih => exact (places_sublist w e).append ih
  exact (pairwise_flatMap_reached h).sublist (hsublist attributes)

/-! ## First accesses -/

/-- The first element that passes comes before all others that do. -/
private theorem eq_or_of_find? {α : Type} {l : List α} {r : α → α → Prop} (hl : l.Pairwise r)
    {p : α → Bool} {a b : α} (ha : l.find? p = some a) (hb : b ∈ l) (hp : p b = true) :
    b = a ∨ r a b := by
  obtain ⟨-, front, back, rfl, hfront⟩ := List.find?_eq_some_iff_append.mp ha
  rcases List.mem_append.mp hb with hb | hb
  · have hnot := hfront b hb
    rw [hp] at hnot
    cases hnot
  · rcases List.mem_cons.mp hb with rfl | hb
    · exact .inl rfl
    · exact .inr ((List.pairwise_cons.mp (List.pairwise_append.mp hl).2.1).1 b hb)

/-- If an access leads to a node, there is a first one that does. -/
theorem exists_isFirst (hordered : attributes.Pairwise fun a b => a.1 < b.1)
    (h : Leads w attributes access (.ofNode m)) :
    ∃ first, Access.IsFirst (Leads w attributes · (.ofNode m)) first := by
  have hm : ∀ v : Value, (v.asNode? == some m) = true ↔ v = .ofNode m := fun v => by
    rw [beq_iff_eq, Value.asNode?_eq_some_iff]
  obtain ⟨⟨v, first⟩, hfind⟩ : ∃ place, (attributes.flatMap (reached w)).find?
      (fun place => place.1.asNode? == some m) = some place := by
    rw [← Option.isSome_iff_exists, List.find?_isSome]
    exact ⟨_, mem_flatMap_reached_iff.mpr h, (hm _).mpr rfl⟩
  have hnode := List.find?_some hfind
  obtain rfl := (hm v).mp hnode
  refine ⟨first, mem_flatMap_reached_iff.mp (List.mem_of_find?_eq_some hfind), fun other hother => ?_⟩
  exact (eq_or_of_find? (pairwise_flatMap_reached hordered) hfind (mem_flatMap_reached_iff.mpr hother)
    ((hm _).mpr rfl)).imp_left (congrArg Prod.snd)

/-- A place holds the child at a position if it holds the node whose first position that is. -/
private theorem holds_iff {position : Nat} :
    (v.asNode?.bind (View.position? children) == some position) = true ↔
      ∃ m, v = .ofNode m ∧ children[position]? = some m ∧ m ∉ children.take position := by
  rw [beq_iff_eq, Option.bind_eq_some_iff]
  refine exists_congr fun m => ?_
  rw [Value.asNode?_eq_some_iff, View.position?_eq_some_iff]

/-- Children are held by the first accesses that reach them. -/
theorem holding_reaches (s : Selection) (w : World) (children : List Node) (n : Node) :
    Holding (Reaches w (attributesOf s w n)) children (holder? s w children n) where
  mapped position := by
    rw [← Option.isSome_iff_exists, holder?, Option.isSome_map, List.find?_isSome]
    simp only [holds_iff]
    constructor
    · rintro ⟨⟨v, access⟩, hplace, m, rfl, hchild, hfirst⟩
      exact ⟨m, hchild, hfirst, access, mem_flatMap_places_iff.mp hplace⟩
    · rintro ⟨m, hchild, hfirst, access, hreaches⟩
      exact ⟨(.ofNode m, access), mem_flatMap_places_iff.mpr hreaches, m, rfl, hchild, hfirst⟩
  first position access haccess := by
    obtain ⟨⟨v, _⟩, hfind, rfl⟩ := Option.map_eq_some_iff.mp haccess
    have hholds := List.find?_some hfind
    obtain ⟨m, rfl, hchild, hfirst⟩ := holds_iff.mp hholds
    refine ⟨m, hchild, mem_flatMap_places_iff.mp (List.mem_of_find?_eq_some hfind), fun other hother => ?_⟩
    have hbefore := eq_or_of_find? (pairwise_flatMap_places (pairwise_attributesOf s w n)) hfind
      (mem_flatMap_places_iff.mpr hother) hholds
    exact hbefore.imp_left (congrArg Prod.snd)

/-- What a child is held by denotes the child. -/
theorem Holding.denotes (h : Holding (Reaches w attributes) children held)
    (honce : (attributes.map Prod.fst).Nodup) : Denotes w attributes children held := by
  intro position access haccess v
  obtain ⟨m, hchild, hfirst⟩ := h.first position access haccess
  constructor
  · exact fun hleads => ⟨m, hchild, hleads.unique honce hfirst.self.1⟩
  · rintro ⟨m', hchild', rfl⟩
    obtain rfl := Option.some.inj (hchild.symm.trans hchild')
    exact hfirst.self.1

/-! ## Children that are held as they ought to be -/

/-- The first access to a node reaches it, unless the node is a list or a tuple that is held as a whole. -/
private theorem reaches_of_isFirst (hm : w.IsSequence (.ofNode m) → ¬ IsHeldWhole w attributes m)
    (hfirst : Access.IsFirst (Leads w attributes · (.ofNode m)) access) :
    Reaches w attributes access (.ofNode m) := by
  refine ⟨hfirst.self, fun hindex hsequence => hm hsequence ⟨access.name, ?_⟩⟩
  obtain ⟨name, index⟩ := access
  obtain rfl : index = none := hindex
  exact hfirst

/-- Children are held by the first accesses that lead to them exactly if none of them is a list or a tuple
that is first held as a whole. -/
theorem holding_leads_iff (hordered : attributes.Pairwise fun a b => a.1 < b.1)
    (h : Holding (Reaches w attributes) children held) : Holding (Leads w attributes) children held ↔
      ∀ m ∈ children, w.IsSequence (.ofNode m) → ¬ IsHeldWhole w attributes m := by
  constructor
  · rintro hleads m hm hsequence ⟨name, hwhole⟩
    -- The access of the child's first position would have to be both the attribute and an item.
    obtain ⟨position, hposition⟩ : ∃ position, View.position? children m = some position :=
      Option.ne_none_iff_exists'.mp fun hnone => View.position?_eq_none_iff.mp hnone hm
    obtain ⟨hchild, hbefore⟩ := View.position?_eq_some_iff.mp hposition
    obtain ⟨access, haccess⟩ := (hleads.mapped position).mpr ⟨m, hchild, hbefore, _, hwhole.self⟩
    obtain ⟨m', hchild', hfirst⟩ := hleads.first _ access haccess
    obtain rfl := Option.some.inj (hchild.symm.trans hchild')
    obtain rfl := hfirst.unique hwhole
    obtain ⟨m', hchild', hreaches⟩ := h.first _ _ haccess
    obtain rfl := Option.some.inj (hchild.symm.trans hchild')
    exact hreaches.self.2 rfl hsequence
  · intro hwhole
    refine ⟨fun position => ?_, fun position access haccess => ?_⟩
    · rw [h.mapped position]
      refine exists_congr fun m => and_congr_right fun hm => and_congr_right fun _ => ?_
      constructor
      · exact fun ⟨access, hreaches⟩ => ⟨access, hreaches.1⟩
      · rintro ⟨access, hleads⟩
        obtain ⟨first, hfirst⟩ := exists_isFirst hordered hleads
        exact ⟨first, reaches_of_isFirst (hwhole m (List.mem_of_getElem? hm)) hfirst⟩
    · obtain ⟨m, hm, hreaches⟩ := h.first position access haccess
      obtain ⟨first, hfirst⟩ := exists_isFirst hordered hreaches.self.1
      have hreached := reaches_of_isFirst (hwhole m (List.mem_of_getElem? hm)) hfirst
      -- Both are first among the accesses that reach the child, so they are the same.
      have hsame : Access.IsFirst (Reaches w attributes · (.ofNode m)) first :=
        ⟨hreached, fun other hother => hfirst.first other hother.1⟩
      exact ⟨m, hm, hreaches.unique hsame ▸ hfirst⟩

/-! ## What is printed -/

theorem exists_position_of_lookup {i : Int} {text : String}
    (h : (holders s w children n).lookup i = some text) : ∃ position : Nat, i = position := by
  rw [holders, lookup_keepFirst, List.lookup_nil, Option.none_or] at h
  obtain ⟨front, back, heq, -⟩ := List.lookup_eq_some_iff.mp h
  have hmem : (i, text) ∈ (((attributesOf s w n).flatMap fun e => accesses w e.1 e.2).filterMap
      (held children)) := heq ▸ List.mem_append_right front List.mem_cons_self
  obtain ⟨⟨v, access⟩, -, hheld⟩ := List.mem_filterMap.mp hmem
  rw [held_eq] at hheld
  obtain ⟨position, -, hentry⟩ := Option.map_eq_some_iff.mp hheld
  exact ⟨position, (congrArg Prod.fst hentry).symm⟩

/-- What is printed for positions is how their accesses are written. -/
theorem lookup_holders_eq_some_iff {i : Int} {text : String} :
    (holders s w children n).lookup i = some text ↔ ∃ (position : Nat) (access : Access), i = position ∧
      holder? s w children n position = some access ∧ access.text = text := by
  constructor
  · intro h
    obtain ⟨position, rfl⟩ := exists_position_of_lookup h
    rw [lookup_holders] at h
    obtain ⟨access, haccess, htext⟩ := Option.map_eq_some_iff.mp h
    exact ⟨position, access, rfl, haccess, htext⟩
  · rintro ⟨position, access, rfl, haccess, rfl⟩
    rw [lookup_holders, haccess, Option.map_some]

/-- Texts can be mistaken exactly where an attribute is called like an item that is something else. -/
theorem unmistakable_iff (honce : (attributes.map Prod.fst).Nodup) :
    Unmistakable w attributes held ↔
      ∀ position access, held position = some access → ¬ Clash w attributes access.text := by
  have hnamed : ∀ text v, Leads w attributes ⟨text, none⟩ v ↔ (text, v) ∈ attributes := by
    intro text v
    simp [Leads]
  refine forall_congr' fun position => forall_congr' fun access => forall_congr' fun haccess => ?_
  constructor
  · rintro hsame ⟨item, u, v, hindex, htext, hitem, hmem, hne⟩
    have hname := (hnamed _ v).mpr hmem
    have htext' : (⟨access.text, none⟩ : Access).text = access.text := String.append_empty
    -- The access is one of the two, and the other one is taken for it.
    rcases Access.text_eq_text_iff.mp htext with rfl | ⟨hnone, -⟩ | ⟨hnone, -, hcalled⟩
    · exact hne (hsame _ _ _ htext' hname hitem).symm
    · exact absurd hnone hindex
    · obtain ⟨name, index⟩ := access
      obtain rfl : index = none := hnone
      have hattribute : (⟨name, none⟩ : Access).text = name := String.append_empty
      rw [hattribute] at hname
      exact hne (hsame item u v htext hitem hname)
  · intro hclash other u v htext hother hheld
    rcases Access.text_eq_text_iff.mp htext with rfl | ⟨hnone, hindex, hcalled⟩ | ⟨hnone, hindex, hcalled⟩
    · exact hother.unique honce hheld
    · obtain ⟨name, index⟩ := other
      obtain rfl : index = none := hnone
      obtain rfl : name = access.text := hcalled
      by_contra hne
      exact hclash ⟨access, v, u, hindex, rfl, hheld, (hnamed _ u).mp hother, fun h => hne h.symm⟩
    · obtain ⟨name, index⟩ := access
      obtain rfl : index = none := hnone
      obtain rfl : name = other.text := hcalled
      by_contra hne
      have hattribute : (⟨other.text, none⟩ : Access).text = other.text := String.append_empty
      rw [hattribute] at hclash
      exact hclash ⟨other, u, v, hindex, rfl, hother, (hnamed _ v).mp hheld, hne⟩

/-- Whatever a node stores, whatever children a view gives it and whichever attributes are taken: what is
printed for a position is the text of an access, each access denotes the child at its position and nothing
else, and it is the first that reaches this child without stopping at a list or a tuple; a position has one
just if it is the first of its child and there is such an access.

Lists and tuples do not get in the way exactly if no child that is one is first held as a whole; otherwise
that child is held by an item behind it, or not at all, although an attribute is the child.  The texts are
read as what they stand for exactly if none of them is that of an item and of an attribute that differ.

As a node has each name once, a selection that goes by the values of attributes is one that goes by names. -/
theorem holders_least (s : Selection) (w : World) (v : View) (base : Transcript.Style) (n : Node) :
    let attributes := attributesOf s w n
    let children := v.children n
    let held := holder? s w children n
    (∀ i text, ((style s w v base).holders n).lookup i = some text ↔
      ∃ (position : Nat) (access : Access), i = position ∧ held position = some access ∧
        access.text = text) ∧
    Denotes w attributes children held ∧
    Holding (Reaches w attributes) children held ∧
    (Holding (Leads w attributes) children held ↔
      ∀ m ∈ children, w.IsSequence (.ofNode m) → ¬ IsHeldWhole w attributes m) ∧
    (Unmistakable w attributes held ↔
      ∀ position access, held position = some access → ¬ Clash w attributes access.text) := by
  intro attributes children held
  have hholding : Holding (Reaches w attributes) children held := holding_reaches s w children n
  exact ⟨fun _ _ => lookup_holders_eq_some_iff, hholding.denotes (nodup_attributesOf s w n), hholding,
    holding_leads_iff (pairwise_attributesOf s w n) hholding,
    unmistakable_iff (nodup_attributesOf s w n)⟩

/-! ## A muddle -/

/-- A node with three children, each of which is an attribute of it or an item of one.  The first child is a
tuple, and the name of the second looks like the item that the third is. -/
def muddle : World where
  hierarchy := Sample.hierarchy
  forest := ⟨#[
    { type := Sample.pair
      children := [.object 1, .object 2, .object 3]
      attributes := .ofEntries [("left", .list [.node 3]), ("left[0]", .node 2), ("pair", .node 1)] },
    { type := Sample.pair, sequence := some (.tuple [.int 1, .int 2]) },
    { type := Sample.leaf }, { type := Sample.leaf }]⟩
  registries := []

theorem attributesOf_muddle : attributesOf (plain Sample.hierarchy) muddle (.object 0) =
    [("left", .list [.node 3]), ("left[0]", .node 2), ("pair", .node 1)] := by
  have htaken : ((gathered muddle (.object 0)).entries.filter fun e =>
      (plain Sample.hierarchy).takes (.object 0) e.1) =
        [("left", .list [.node 3]), ("left[0]", .node 2), ("pair", .node 1)] := by
    have hpublic : isPublic "left" = true ∧ isPublic "left[0]" = true ∧ isPublic "pair" = true := by decide
    have hgathered : (gathered muddle (.object 0)).entries =
      [("left", .list [.node 3]), ("left[0]", .node 2), ("pair", .node 1)] := rfl
    simp [hgathered, plain, hpublic]
  rw [attributesOf, htaken]
  exact List.mergeSort_of_pairwise (by decide)

/-- The child that is a tuple is held by nothing, although an attribute is this child, and one text is printed
for the two others. -/
theorem muddle_misheld :
    let held := (style (plain Sample.hierarchy) muddle (Sample.adapter.view muddle)
      (Transcript.plain 4 muddle.typeNameOf)).holders (.object 0)
    (Sample.adapter.view muddle).children (.object 0) = [.object 1, .object 2, .object 3] ∧
    ("pair", .ofNode (.object 1)) ∈ attributesOf (plain Sample.hierarchy) muddle (.object 0) ∧
    held.lookup 0 = none ∧ held.lookup 1 = some "left[0]" ∧ held.lookup 2 = some "left[0]" := by
  have hheld : (style (plain Sample.hierarchy) muddle (Sample.adapter.view muddle)
      (Transcript.plain 4 muddle.typeNameOf)).holders (.object 0) = [(2, "left[0]"), (1, "left[0]")] := by
    show holders (plain Sample.hierarchy) muddle [.object 1, .object 2, .object 3] (.object 0) = _
    rw [holders, attributesOf_muddle]
    rfl
  rw [hheld, attributesOf_muddle]
  exact ⟨rfl, by simp [Value.ofNode], rfl, rfl, rfl⟩

end AttributeDump

end TreeShape
