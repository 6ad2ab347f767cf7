import TreeShape.Proofs.Attributes.Printed

/-!
# Bearing out a dump

What the dump of the attributes of a tree says of another one beside its structure, `Tree.BorneOut`: the
attributes that are told have the same values, and those that hold a child hold the counterpart of that
child.

Children and their counterparts are told by position, so what is said of the children is said of a list
of them from a position on, `AllBorneOut`, which grows as the trees do, `allBorneOut_cons`.

A tree bears out its own dump if its nodes are as they look, `ShownBy.borneOut_self`, and agrees with
itself if, besides, every child is an instance of its own class and knows its parent,
`ShownBy.agrees_self`.
-/

namespace TreeShape

open Replay Audit

namespace Tree

/-! ## What is borne out -/

/-- A node bears out what is said of a tree down to a limit: it has the attributes that are told of the
root, and above the limit its children are held as those of the root are, and bear out what is said of
them. -/
inductive BorneOut (notes : Notes) (v : View) (w : World) : DumpLimit → Tree → Node → Prop
  | branch {limit : DumpLimit} {a n : Node} {ts : List Tree} :
      (∀ e ∈ notes.told a, w.Confirms n e) →
      (limit.isExhausted = false → ∀ (k : Nat) (t : Tree) (m : Node), ts[k]? = some t →
        (v.children n)[k]? = some m → ∀ access ∈ notes.holder a k, w.Holds n access m) →
      (limit.isExhausted = false → ∀ (k : Nat) (t : Tree) (m : Node), ts[k]? = some t →
        (v.children n)[k]? = some m → BorneOut notes v w limit.below t m) →
      BorneOut notes v w limit (.branch a ts) n

section

variable {notes : Notes} {v : View} {w : World} {limit : DumpLimit} {a n : Node} {position : Nat}
  {t : Tree} {ts : List Tree}

/-- The children of a node bear out what is said of several trees, from a position on. -/
def AllBorneOut (notes : Notes) (v : View) (w : World) (limit : DumpLimit) (a n : Node)
    (position : Nat) (ts : List Tree) : Prop :=
  ∀ (k : Nat) (t : Tree) (m : Node), ts[k]? = some t → (v.children n)[position + k]? = some m →
    (∀ access ∈ notes.holder a (position + k), w.Holds n access m) ∧ t.BorneOut notes v w limit.below m

theorem borneOut_branch : (branch a ts).BorneOut notes v w limit n ↔
    (∀ e ∈ notes.told a, w.Confirms n e) ∧
      (limit.isExhausted = false → AllBorneOut notes v w limit a n 0 ts) := by
  constructor
  · rintro ⟨htold, hholders, hbelow⟩
    refine ⟨htold, fun hlimit k t m ht hm => ?_⟩
    rw [Nat.zero_add] at hm ⊢
    exact ⟨hholders hlimit k t m ht hm, hbelow hlimit k t m ht hm⟩
  · rintro ⟨htold, hall⟩
    have hchild : limit.isExhausted = false → ∀ (k : Nat) (t : Tree) (m : Node), ts[k]? = some t →
        (v.children n)[k]? = some m →
          (∀ access ∈ notes.holder a k, w.Holds n access m) ∧ t.BorneOut notes v w limit.below m := by
      intro hlimit k t m ht hm
      have hk := hall hlimit k t m ht
      rw [Nat.zero_add] at hk
      exact hk hm
    exact .branch htold (fun hlimit k t m ht hm => (hchild hlimit k t m ht hm).1)
      fun hlimit k t m ht hm => (hchild hlimit k t m ht hm).2

theorem allBorneOut_nil : AllBorneOut notes v w limit a n position [] := by
  intro k t m ht
  cases ht

theorem allBorneOut_cons : AllBorneOut notes v w limit a n position (t :: ts) ↔
    (∀ m, (v.children n)[position]? = some m → t.BorneOut notes v w limit.below m) ∧
      (∀ access ∈ notes.holder a position, ∀ m, (v.children n)[position]? = some m →
        w.Holds n access m) ∧
      AllBorneOut notes v w limit a n (position + 1) ts := by
  constructor
  · intro hall
    refine ⟨fun m hm => (hall 0 t m rfl hm).2,
      fun access haccess m hm => (hall 0 t m rfl hm).1 access haccess, fun k u m hu hm => ?_⟩
    have hk := hall (k + 1) u m hu
    rw [← Nat.add_assoc, Nat.add_right_comm] at hk
    exact hk hm
  · rintro ⟨hfirst, hholder, hrest⟩ k u m hu hm
    cases k with
    | zero =>
        cases hu
        exact ⟨fun access haccess => hholder access haccess m hm, hfirst m hm⟩
    | succ k =>
        have hk := hrest k u m hu
        rw [Nat.add_right_comm, Nat.add_assoc] at hk
        exact hk hm

end

/-! ## The dumped tree itself -/

/-- Every child has its parent, where that is known. -/
inductive Linked (v : View) : Tree → Prop
  | branch {n : Node} {ts : List Tree} : (∀ t ∈ ts, v.isLinkedTo (some n) t.root = true) →
      (∀ t ∈ ts, Linked v t) → Linked v (.branch n ts)

end Tree

namespace Tree

variable {v : View} {w : World} {limit : DumpLimit} {t : Tree}

/-- A tree whose nodes are instances of their own classes, and have their parents, agrees with itself. -/
theorem ShownBy.agrees_self {classOf : Node → NodeType} (h : t.ShownBy v) (hlinked : t.Linked v)
    (hown : ∀ n, t.Shown limit n → v.askType n (classOf n) = .ok true) {parent? : Option Node}
    (hparent : v.isLinkedTo parent? t.root = true) : t.Agrees v classOf limit parent? t.root := by
  induction t using Tree.induct generalizing limit parent? with
  | branch n ts ih =>
      cases h with
      | branch hask hts =>
          cases hlinked with
          | branch hlinks hlinkedTs =>
              refine .branch (hown n .root) hparent hask (fun _ => by simp) fun hlimit pair hpair => ?_
              rw [← List.map_prod_left_eq_zip] at hpair
              obtain ⟨t, ht, rfl⟩ := List.mem_map.mp hpair
              exact ih t ht (hts t ht) (hlinkedTs t ht) (fun m hm => hown m (.child hlimit ht hm))
                (hlinks t ht)

/-- A tree whose nodes are as they look bears out what is said of it. -/
theorem ShownBy.borneOut_self {literals : String → Option Value} {types : String → Option NodeType}
    (h : t.ShownBy v) (hlegible : ∀ n, t.Shown limit n → w.IsLegible literals types n) :
    t.BorneOut (AttributeDump.notes literals w v) v w limit t.root := by
  induction t using Tree.induct generalizing limit with
  | branch n ts ih =>
      have hn := hlegible n .root
      have hchildren := h.children
      refine .branch (fun e he => ?_) (fun _ k t m _ hm access haccess => ?_) fun hlimit k t m ht hm => ?_
      · obtain ⟨hmem, text, htext⟩ := AttributeDump.mem_of_mem_told he
        refine ⟨e.2, hn.candid.read_eq hmem, ?_⟩
        split
        · rfl
        · exact Value.agrees_self (hn.candid.tellable e hmem) htext
      · obtain ⟨-, m', hm', hread⟩ := hn.candid.readAccess_of_holder? haccess
        rw [root] at hm
        rw [hm] at hm'
        cases hm'
        exact hread
      · have hmem := List.mem_of_getElem? ht
        rw [root, hchildren, List.getElem?_map, ht] at hm
        cases hm
        exact ih t hmem (h.subtree hmem) fun m hm => hlegible m (.child hlimit hmem hm)

end Tree

end TreeShape
