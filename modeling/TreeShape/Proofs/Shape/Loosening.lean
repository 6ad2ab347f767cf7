import TreeShape.Proofs.Sample
import TreeShape.Proofs.Shape.Deciding
import TreeShape.Proofs.Shape.Supertypes

/-!
# Looser specs

A spec can be made looser in one place: a child is only skipped, or its own children do not matter any
more; a supertype is expected instead of a type; an assertion is dropped.  Skips next to each other can
be put together, and a skip can be taken apart.  None of this keeps a spec from admitting a tree that it
admitted before, and so a match that has succeeded succeeds with every looser spec.

## Strategy

Running a spec decides what it demands, so this is a fact about demands and not about runs.  It is shown
of one change first, by induction on the place of the change, `Spec.Loosens.accounts`.  What makes the
induction go through is that the looser spec leaves the very same children: what a spec demands of one
child says nothing about how many it takes.  Several changes are a chain of single ones.  Expecting a
supertype is the only change for which the world matters: the types have to be ordered, and the adapter
has to tell an instance of a type to be one of its supertypes.
-/

namespace TreeShape

/-! ## Changes -/

/-- The assertions of a spec about its own node. -/
def Spec.assertions : Spec → Spec
  | done => done
  | assert check rest => assert check rest.assertions
  | skip _ rest => rest.assertions
  | child _ _ _ rest => rest.assertions

/-- One change that makes a spec looser, at any place in it. -/
inductive Spec.Loosens (h : Hierarchy) : Spec → Spec → Prop
  /-- A child only has to exist. -/
  | pass (way : Way) (e : Expected) (inside rest : Spec) :
      Loosens h (.child way e inside rest) (.skip 1 rest)
  /-- The children of a child do not matter. -/
  | ignore (way : Way) (e : Expected) (inside rest : Spec) :
      Loosens h (.child way e inside rest)
        (.child way { e with ignoring := true } inside.assertions rest)
  /-- A child has to be of a supertype only. -/
  | widen (way : Way) (e : Expected) (t : NodeType) (inside rest : Spec) :
      h.isSubtype e.type t = true →
      Loosens h (.child way e inside rest) (.child way { e with type := t } inside rest)
  /-- A node need not be as an assertion demands. -/
  | drop (check : World → Node → Except Failure Unit) (rest : Spec) :
      Loosens h (.assert check rest) rest
  | merge (a b : Nat) (rest : Spec) : Loosens h (.skip a (.skip b rest)) (.skip (a + b) rest)
  | split (a b : Nat) (rest : Spec) : Loosens h (.skip (a + b) rest) (.skip a (.skip b rest))
  | afterAssert (check : World → Node → Except Failure Unit) {rest rest' : Spec} :
      Loosens h rest rest' → Loosens h (.assert check rest) (.assert check rest')
  | afterSkip (count : Nat) {rest rest' : Spec} :
      Loosens h rest rest' → Loosens h (.skip count rest) (.skip count rest')
  | afterChild (way : Way) (e : Expected) (inside : Spec) {rest rest' : Spec} :
      Loosens h rest rest' → Loosens h (.child way e inside rest) (.child way e inside rest')
  | inside (way : Way) (e : Expected) {inside inside' : Spec} (rest : Spec) :
      Loosens h inside inside' → Loosens h (.child way e inside rest) (.child way e inside' rest)

/-- One change that makes what is expected of a tree looser, at the root or below it. -/
inductive TreeSpec.Loosens (h : Hierarchy) : TreeSpec → TreeSpec → Prop
  | ignore (way : Way) (e : Expected) (spec : Spec) :
      Loosens h ⟨way, e, spec⟩ ⟨way, { e with ignoring := true }, spec.assertions⟩
  | widen (way : Way) (e : Expected) (t : NodeType) (spec : Spec) :
      h.isSubtype e.type t = true → Loosens h ⟨way, e, spec⟩ ⟨way, { e with type := t }, spec⟩
  | spec (way : Way) (e : Expected) {spec spec' : Spec} :
      spec.Loosens h spec' → Loosens h ⟨way, e, spec⟩ ⟨way, e, spec'⟩

/-! ## What looser specs admit -/

namespace Spec

variable {c : Config} {w : World} {n : Node} {ignoring : Bool} {e : Expected} {parent? : Option Node}
  {t : NodeType} {spec spec' : Spec} {nodes left : List Node}

/-- Assertions are about the node, so they hold whether its children matter or not. -/
theorem Accounts.assertions (h : spec.Accounts c w n ignoring nodes left) (below : List Node) :
    spec.assertions.Accounts c w n true below below := by
  induction spec generalizing nodes with
  | done => rfl
  | assert check rest ih => exact ⟨h.1, ih h.2⟩
  | skip count rest ih => exact ih h.2.2
  | child way e inside rest _ ih =>
      cases nodes with
      | nil => exact h.elim
      | cons m nodes => exact ih h.2.2

theorem Admits.ignore (h : spec.Admits c w parent? e n) :
    spec.assertions.Admits c w parent? { e with ignoring := true } n := by
  obtain ⟨hfits, below, hask, hpasses, last, hlast, -⟩ := h
  exact ⟨hfits, below, hask, hpasses, below, hlast.assertions below, .inl rfl⟩

theorem Admits.widen (htells : c.adapter.TellsTypes w) (hordered : w.hierarchy.IsOrdered)
    (ht : w.hierarchy.isSubtype e.type t = true) (h : spec.Admits c w parent? e n) :
    spec.Admits c w parent? { e with type := t } n := by
  obtain ⟨⟨htype, hlink⟩, hbelow⟩ := h
  exact ⟨⟨htells.askType_of_isSubtype hordered ht htype, hlink⟩, hbelow⟩

/-- If a looser spec accounts for the same children, it admits the same trees. -/
theorem Admits.mono (h : spec.Admits c w parent? e n)
    (hspec : ∀ {nodes left}, spec.Accounts c w n e.ignoring nodes left →
      spec'.Accounts c w n e.ignoring nodes left) : spec'.Admits c w parent? e n := by
  obtain ⟨hfits, below, hask, hpasses, last, hlast, hcounted⟩ := h
  exact ⟨hfits, below, hask, hpasses, last, hspec hlast, hcounted⟩

/-- What a spec leaves of the children, a looser spec leaves too. -/
theorem Loosens.accounts (htells : c.adapter.TellsTypes w) (hordered : w.hierarchy.IsOrdered)
    (hloosens : Loosens w.hierarchy spec spec') (h : spec.Accounts c w n ignoring nodes left) :
    spec'.Accounts c w n ignoring nodes left := by
  -- The nodes that are left over are the same, so changes inside a child do not reach what follows.
  induction hloosens generalizing n ignoring nodes left with
  | drop check rest => exact h.2
  | merge a b rest =>
      obtain ⟨hi, ha, -, hb, hrest⟩ := h
      rw [List.length_drop] at hb
      rw [List.drop_drop] at hrest
      exact ⟨hi, by omega, hrest⟩
  | split a b rest =>
      obtain ⟨hi, hab, hrest⟩ := h
      refine ⟨hi, by omega, hi, ?_, ?_⟩
      · rw [List.length_drop]
        omega
      · rw [List.drop_drop]
        exact hrest
  | afterAssert check _ ih => exact ⟨h.1, ih h.2⟩
  | afterSkip count _ ih => exact ⟨h.1, h.2.1, ih h.2.2⟩
  | pass way e inside rest =>
      cases nodes with
      | nil => exact h.elim
      | cons m nodes => exact ⟨h.1, Nat.succ_pos _, h.2.2⟩
  | ignore way e inside rest =>
      cases nodes with
      | nil => exact h.elim
      | cons m nodes => exact ⟨h.1, Admits.ignore h.2.1, h.2.2⟩
  | widen way e t inside rest ht =>
      cases nodes with
      | nil => exact h.elim
      | cons m nodes => exact ⟨h.1, Admits.widen htells hordered ht h.2.1, h.2.2⟩
  | afterChild way e inside _ ih =>
      cases nodes with
      | nil => exact h.elim
      | cons m nodes => exact ⟨h.1, h.2.1, ih h.2.2⟩
  | inside way e rest _ ih =>
      cases nodes with
      | nil => exact h.elim
      | cons m nodes => exact ⟨h.1, Admits.mono h.2.1 ih, h.2.2⟩

end Spec

namespace TreeSpec

variable {c : Config} {p q : TreeSpec} {root : Node}

/-- A looser spec admits every tree that the spec admits, and returns as much. -/
theorem Loosens.admits {w : World} (htells : c.adapter.TellsTypes w)
    (hordered : w.hierarchy.IsOrdered) (hloosens : p.Loosens w.hierarchy q)
    (h : p.spec.Admits c w none p.expected root) :
    q.way = p.way ∧ q.spec.Admits c w none q.expected root := by
  cases hloosens with
  | ignore way e spec => exact ⟨rfl, h.ignore⟩
  | widen way e t spec ht => exact ⟨rfl, h.widen htells hordered ht⟩
  | spec way e hspec => exact ⟨rfl, h.mono (hspec.accounts htells hordered)⟩

/-! ## Matching with looser specs -/

/-- A match that has succeeded also succeeds, with the same value, when its spec has been made looser in
any number of places.  The adapter may be any that leaves types alone, as all usual ones do,
`Adapter.tellsTypes`, the hierarchy any that was made by declaring types, and the match may be made in any
other session. -/
theorem loosened_matches {s t : Session} {v : Value} (htells : c.adapter.TellsTypes s.world)
    (hordered : s.world.hierarchy.IsOrdered)
    (hloosens : Relation.ReflTransGen (Loosens s.world.hierarchy) p q) (ht : t.world = s.world)
    (h : (p.run c root s).1 = .ok v) : (q.run c root t).1 = .ok v := by
  obtain ⟨hroot, hadmits, rfl⟩ := run_eq_ok_iff.mp h
  clear h
  have hq : q.way = p.way ∧ q.spec.Admits c s.world none q.expected root := by
    induction hloosens with
    | refl => exact ⟨rfl, hadmits⟩
    | tail _ hstep ih =>
        obtain ⟨hway, hadmits⟩ := ih
        obtain ⟨hway', hadmits'⟩ := hstep.admits htells hordered hadmits
        exact ⟨hway'.trans hway, hadmits'⟩
  refine run_eq_ok_iff.mpr ⟨hroot, ?_, by rw [hq.1]⟩
  rw [ht]
  exact hq.2

/-- The types of the sample can be declared one after the other. -/
theorem isOrdered_sample : Sample.hierarchy.IsOrdered := by
  have hdeclared : Sample.hierarchy =
      ((((Hierarchy.empty.declare [] (Sample.typeInfo "object" [])).declare
        [.anything] (Sample.typeInfo "NoneType" [])).declare
        [.anything] (Sample.typeInfo "Node" [])).declare
        [.common] (Sample.typeInfo "Pair" [])).declare
        [.common] (Sample.typeInfo "Leaf" []) := rfl
  rw [hdeclared]
  exact ((((Hierarchy.isOrdered_empty.declare _ (by decide)).declare _ (by decide)).declare _
    (by decide)).declare _ (by decide)).declare _ (by decide)

/-- Two leaves below a pair, of which the second is matched by a call that returns what its script does.
The pair is asserted to have two children. -/
def sample : TreeSpec where
  way := .returning
  expected := ⟨Sample.pair, false⟩
  spec := .assert (fun w n => if (w.forest.children n).length = 2 then .ok () else
      .error (.raised .assertion "not a pair" none none))
    (.child .enclosing ⟨Sample.leaf, false⟩ .done (.child .extracting ⟨Sample.leaf, false⟩ .done .done))

/-- The same without the assertion, for any node, with the first child skipped in two steps, and for a
second child that may have children. -/
def looseSample : TreeSpec where
  way := .returning
  expected := ⟨.common, false⟩
  spec := .skip 0 (.skip 1 (.child .extracting ⟨Sample.leaf, true⟩ .done .done))

theorem loosens_sample :
    Relation.ReflTransGen (Loosens Sample.hierarchy) sample looseSample :=
  .head (.spec _ _ (.drop _ _)) <| .head (.widen _ _ .common _ (by decide)) <|
    .head (.spec _ _ (.pass _ _ _ _)) <|
    .head (.spec _ _ (.afterSkip 1 (.ignore .extracting ⟨Sample.leaf, false⟩ .done .done))) <|
    .head (.spec _ _ (.split 0 1 _)) .refl

theorem admits_sample :
    sample.spec.Admits Sample.config Sample.world none sample.expected Sample.root := by
  have hpasses : ∀ n, Sample.config.Passes Sample.world n := by
    intro n check hcheck
    cases hcheck
  have hleaf : ∀ n ∈ [Sample.left, Sample.right],
      Spec.Admits Sample.config Sample.world (some Sample.root) ⟨Sample.leaf, false⟩ .done n := by
    intro n hn
    refine ⟨⟨?_, rfl⟩, [], ?_, hpasses n, [], rfl, .inr rfl⟩
    all_goals
      simp only [List.mem_cons, List.mem_nil_iff, or_false] at hn
      rcases hn with rfl | rfl <;> rfl
  exact ⟨⟨rfl, rfl⟩, [Sample.left, Sample.right], rfl, hpasses _, [],
    ⟨rfl, ⟨rfl, hleaf _ (by simp), rfl, hleaf _ (by simp), rfl⟩⟩, .inr rfl⟩

/-- The pair is matched either way. -/
theorem loosened_matches_sample :
    Sample.adapter.TellsTypes Sample.world ∧ Sample.hierarchy.IsOrdered ∧
      Relation.ReflTransGen (Loosens Sample.hierarchy) sample looseSample ∧
      (sample.run Sample.config Sample.root Sample.session).1 = .ok (.ofNode Sample.root) ∧
      (looseSample.run Sample.config Sample.root Sample.session).1 = .ok (.ofNode Sample.root) := by
  have htells : Sample.config.adapter.TellsTypes Sample.session.world :=
    Adapter.tellsTypes (.downward "sample" {}) Sample.world
  have hstrict : (sample.run Sample.config Sample.root Sample.session).1 =
      .ok (.ofNode Sample.root) := run_eq_ok_iff.mpr ⟨by decide, admits_sample, rfl⟩
  exact ⟨htells, isOrdered_sample, loosens_sample, hstrict,
    loosened_matches (s := Sample.session) htells isOrdered_sample loosens_sample rfl hstrict⟩

end TreeSpec

end TreeShape
