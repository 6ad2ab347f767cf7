import TreeShape.Proofs.Matching.Failing

/-!
# Twin sessions

Two configurations may differ in the printer and in the limit of dumps, and in nothing else.  Whatever
is done with the one can then be done with the other, and the two runs stay twins: their worlds and
traces are the same, and their cursors and blocks but for the configurations.  What they fail with is
the same but for the dumps, `Failure.Twin`.

A `Pairing` says which configurations stand for each other, and in which worlds.  `Run.Twin` is the
relation between a step of the one run and a step of the other; it goes through the matching step by
step, one lemma for each.

The one point where the runs could part is a dump that fails in one of them only.  So a pairing asks
that dumps are printed, and only in the worlds that it covers: this is what every step hands on to the
next, and why a deed that alters the world has to lead to a covered one.
-/

namespace TreeShape

open Run

/-- Every dump that failures may want in the world is printed. -/
def Config.Prints (c : Config) (w : World) : Prop :=
  ∀ printer, c.printer = some printer → ∀ n, ∃ text, printer.render w n c.limit = .ok text

/-- The configurations of one run with those that stand for them in another, and the worlds that both
runs may come to.  Paired configurations differ in their dumps only, and the dumps are printed. -/
structure Pairing where
  Pairs : Config → Config → Prop
  Covers : World → Prop
  adapter {c d : Config} : Pairs c d → d.adapter = c.adapter
  implicit {c d : Config} : Pairs c d → d.implicit = c.implicit
  prints {c d : Config} {w : World} : Pairs c d → Covers w → c.Prints w
  prints' {c d : Config} {w : World} : Pairs c d → Covers w → d.Prints w

/-- The place that a failure carries, if it is one that matching locates. -/
def Failure.place? : Failure → Option Location
  | mismatch place _ => some place
  | misuse place _ => some place
  | _ => none

variable {P : Pairing} {c d : Config} {w : World}

/-! ## Places -/

theorem Config.Prints.exists_place (h : c.Prints w) (path : List Node) :
    ∃ place, Location.of c w path = .ok place := by
  have hdump : ∃ dump, Location.dumpOf c w path = .ok dump := by
    unfold Location.dumpOf
    split
    · next printer n hprinter _ =>
        obtain ⟨text, htext⟩ := h printer hprinter n
        rw [htext]
        exact ⟨some text, rfl⟩
    · exact ⟨none, rfl⟩
  obtain ⟨dump, hdump⟩ := hdump
  rw [Location.of, hdump]
  exact ⟨_, rfl⟩

theorem Location.eq_of {path : List Node} {place : Location} (h : Location.of c w path = .ok place) :
    ∃ dump, Location.dumpOf c w path = .ok dump ∧ place = ⟨path, Location.namesOf c w path, dump⟩ := by
  unfold Location.of at h
  cases hdump : Location.dumpOf c w path with
  | error f => simp [hdump, Except.map] at h
  | ok dump =>
      rw [hdump] at h
      cases h
      exact ⟨dump, rfl, rfl⟩

namespace Pairing

theorem view (h : P.Pairs c d) (w : World) : d.view w = c.view w := by
  rw [Config.view, Config.view, P.adapter h]

theorem namesOf (h : P.Pairs c d) (w : World) (path : List Node) :
    Location.namesOf d w path = Location.namesOf c w path := by
  rw [Location.namesOf, Location.namesOf, view h]

/-- Only one world is left. -/
def now (P : Pairing) (w : World) : Pairing where
  Pairs := P.Pairs
  Covers v := P.Covers v ∧ v = w
  adapter := P.adapter
  implicit := P.implicit
  prints h hv := P.prints h hv.1
  prints' h hv := P.prints' h hv.1

end Pairing

/-! ## Twin failures -/

/-- Two failures that are the same but for the dumps in them. -/
inductive Failure.Twin (P : Pairing) : Failure → Failure → Prop
  /-- Matching has located them at the end of a path. -/
  | mismatch {c d : Config} {w : World} {path : List Node} {place place' : Location}
      (reason : Mismatch) : P.Pairs c d → P.Covers w → Location.of c w path = .ok place →
      Location.of d w path = .ok place' → Twin P (.mismatch place reason) (.mismatch place' reason)
  | misuse {c d : Config} {w : World} {path : List Node} {place place' : Location}
      (reason : Misuse) : P.Pairs c d → P.Covers w → Location.of c w path = .ok place →
      Location.of d w path = .ok place' → Twin P (.misuse place reason) (.misuse place' reason)
  /-- The adapter has failed with it. -/
  | asked {c d : Config} {w : World} {f : Failure} : P.Pairs c d → P.Covers w → c.Fails w f →
      Twin P f f
  /-- The implicit check has failed with it. -/
  | checked {c d : Config} {w : World} {check : ImplicitCheck} {n : Node} {f : Failure} :
      P.Pairs c d → P.Covers w → c.implicit = some check → check.run w n = .error f → Twin P f f
  | unplaced {f : Failure} : f.place? = none → Twin P f f
  /-- A script has raised them on account of others. -/
  | caused (kind : FailureKind) (text : String) (path : Option (List String)) {f g : Failure} :
      Twin P f g →
      Twin P (.raised kind text path (some f.asCause)) (.raised kind text path (some g.asCause))

/-- A block can do nothing but the same with two failures that leave it. -/
structure Failure.Parallel (f g : Failure) : Prop where
  wantsLocation : g.wantsLocation = f.wantsLocation
  asCause : f.wantsLocation = true → g.asCause = f.asCause

namespace Failure

variable {f g : Failure}

@[simp] theorem wantsLocation_mismatch (place : Location) (reason : Mismatch) :
    (mismatch place reason).wantsLocation = false := by
  simp [wantsLocation, isLocated, path]

@[simp] theorem wantsLocation_misuse (place : Location) (reason : Misuse) :
    (misuse place reason).wantsLocation = false := by
  simp [wantsLocation, kind, FailureKind.isAssertion]

theorem Twin.kind (h : f.Twin P g) : g.kind = f.kind := by
  cases h <;> rfl

theorem Twin.path (h : f.Twin P g) : g.path = f.path := by
  cases h with
  | mismatch reason hpairs _ hplace hplace' =>
      obtain ⟨dump, -, rfl⟩ := Location.eq_of hplace
      obtain ⟨dump', -, rfl⟩ := Location.eq_of hplace'
      simp only [Failure.path, P.namesOf hpairs]
  | caused kind => cases kind <;> rfl
  | _ => rfl

/-- The causes are the same, or those of failures that are twins themselves. -/
theorem Twin.cause (h : f.Twin P g) : g.cause = f.cause ∨
    ∃ f' g' : Failure, f'.Twin P g' ∧ f.cause = some f'.asCause ∧ g.cause = some g'.asCause := by
  cases h with
  | mismatch reason => exact .inl (by cases reason <;> rfl)
  | caused kind text path h => exact .inr ⟨_, _, h, rfl, rfl⟩
  | _ => exact .inl rfl

theorem Twin.parallel (h : f.Twin P g) : f.Parallel g := by
  refine ⟨by simp only [wantsLocation, isLocated, h.kind, h.path], fun hf => ?_⟩
  cases h with
  | mismatch => simp at hf
  | misuse => simp at hf
  | _ => rfl

/-- What is a twin in one world is one where there are more. -/
theorem Twin.of_now (h : f.Twin (P.now w) g) : f.Twin P g := by
  induction h with
  | mismatch reason hpairs hw hplace hplace' => exact .mismatch reason hpairs hw.1 hplace hplace'
  | misuse reason hpairs hw hplace hplace' => exact .misuse reason hpairs hw.1 hplace hplace'
  | asked hpairs hw hf => exact .asked hpairs hw.1 hf
  | checked hpairs hw hi hf => exact .checked hpairs hw.1 hi hf
  | unplaced hf => exact .unplaced hf
  | caused kind text path _ ih => exact .caused kind text path ih

end Failure

/-- Two outcomes that are values that are related, or failures that are twins. -/
inductive Outcome.Twin {α β : Type} (P : Pairing) (R : α → β → Prop) :
    Except Failure α → Except Failure β → Prop
  | ok {a : α} {b : β} : R a b → Twin P R (.ok a) (.ok b)
  | error {f g : Failure} : f.Twin P g → Twin P R (.error f) (.error g)

theorem Outcome.Twin.mono {α β : Type} {Q : Pairing} {R S : α → β → Prop} {x : Except Failure α}
    {y : Except Failure β} (h : Outcome.Twin P R x y) (hR : ∀ a b, R a b → S a b)
    (hP : ∀ f g, Failure.Twin P f g → Failure.Twin Q f g) : Outcome.Twin Q S x y := by
  cases h with
  | ok h => exact .ok (hR _ _ h)
  | error h => exact .error (hP _ _ h)

/-! ## Twin sessions -/

inductive Cursor.Twin (P : Pairing) : Cursor → Cursor → Prop
  | mk {cursor : Cursor} {d : Config} : P.Pairs cursor.config d →
      Twin P cursor { cursor with config := d }

inductive Block.Twin (P : Pairing) : Block → Block → Prop
  | mk {block : Block} {d : Config} : P.Pairs block.config d →
      Twin P block { block with config := d }

/-- Two sessions that are the same but for the configurations in them.  The names that programs give do
not matter here. -/
structure Session.Twin (P : Pairing) (s t : Session) : Prop where
  covers : P.Covers s.world
  world : t.world = s.world
  trace : t.trace = s.trace
  freshCursor : t.freshCursor = s.freshCursor
  freshBlock : t.freshBlock = s.freshBlock
  cursor : ∀ c, Option.Rel (Cursor.Twin P) (s.cursor? c) (t.cursor? c)
  block : ∀ b, Option.Rel (Block.Twin P) (s.block? b) (t.block? b)

namespace Session.Twin

variable {s t : Session}

theorem fresh (hw : P.Covers w) : Session.Twin P { world := w } { world := w } where
  covers := hw
  world := rfl
  trace := rfl
  freshCursor := rfl
  freshBlock := rfl
  cursor _ := .none
  block _ := .none

theorem record (h : s.Twin P t) (e : Event) : (s.record e).Twin P (t.record e) where
  covers := h.covers
  world := h.world
  trace := congrArg (·.push e) h.trace
  freshCursor := h.freshCursor
  freshBlock := h.freshBlock
  cursor := h.cursor
  block := h.block

theorem alter (h : s.Twin P t) {change : World → World}
    (hchange : ∀ w, P.Covers w → P.Covers (change w)) :
    Session.Twin P { s with world := change s.world } { t with world := change t.world } where
  covers := hchange _ h.covers
  world := congrArg change h.world
  trace := h.trace
  freshCursor := h.freshCursor
  freshBlock := h.freshBlock
  cursor := h.cursor
  block := h.block

theorem modifyCursor (h : s.Twin P t) (c : CursorId) {change change' : Cursor → Cursor}
    (hchange : ∀ a b, a.Twin P b → (change a).Twin P (change' b)) :
    (s.modifyCursor c change).Twin P (t.modifyCursor c change') where
  covers := h.covers
  world := h.world
  trace := h.trace
  freshCursor := by
    simpa [Session.freshCursor, Session.modifyCursor] using h.freshCursor
  freshBlock := h.freshBlock
  cursor d := by
    rw [Session.cursor?_modifyCursor, Session.cursor?_modifyCursor]
    split
    · have hc := h.cursor c
      revert hc
      generalize s.cursor? c = a, t.cursor? c = b
      rintro (hc | _)
      · exact .some (hchange _ _ hc)
      · exact .none
    · exact h.cursor d
  block := h.block

theorem modifyBlock (h : s.Twin P t) (b : BlockId) {change change' : Block → Block}
    (hchange : ∀ a b, a.Twin P b → (change a).Twin P (change' b)) :
    (s.modifyBlock b change).Twin P (t.modifyBlock b change') where
  covers := h.covers
  world := h.world
  trace := h.trace
  freshCursor := h.freshCursor
  freshBlock := by
    simpa [Session.freshBlock, Session.modifyBlock] using h.freshBlock
  cursor := h.cursor
  block d := by
    rw [Session.block?_modifyBlock, Session.block?_modifyBlock]
    split
    · have hb := h.block b
      revert hb
      generalize s.block? b = a, t.block? b = b'
      rintro (hb | _)
      · exact .some (hchange _ _ hb)
      · exact .none
    · exact h.block d

theorem addCursor (h : s.Twin P t) {new new' : Cursor} (hnew : new.Twin P new') :
    (s.addCursor new).Twin P (t.addCursor new') where
  covers := h.covers
  world := h.world
  trace := h.trace
  freshCursor := by
    simpa [Session.freshCursor, Session.addCursor] using h.freshCursor
  freshBlock := h.freshBlock
  cursor d := by
    rw [Session.cursor?_addCursor, Session.cursor?_addCursor, h.freshCursor]
    split
    · exact .some hnew
    · exact h.cursor d
  block := h.block

theorem addBlock (h : s.Twin P t) {new new' : Block} (hnew : new.Twin P new') :
    (s.addBlock new).Twin P (t.addBlock new') where
  covers := h.covers
  world := h.world
  trace := h.trace
  freshCursor := h.freshCursor
  freshBlock := by
    simpa [Session.freshBlock, Session.addBlock] using h.freshBlock
  cursor := h.cursor
  block d := by
    rw [Session.block?_addBlock, Session.block?_addBlock, h.freshBlock]
    split
    · exact .some hnew
    · exact h.block d

theorem mono {Q : Pairing} (h : s.Twin P t) (hpairs : ∀ c d, P.Pairs c d → Q.Pairs c d)
    (hw : Q.Covers s.world) : s.Twin Q t where
  covers := hw
  world := h.world
  trace := h.trace
  freshCursor := h.freshCursor
  freshBlock := h.freshBlock
  cursor c := by
    have hc := h.cursor c
    revert hc
    generalize s.cursor? c = a, t.cursor? c = b
    rintro (⟨⟨hc⟩⟩ | _)
    · exact .some (.mk (hpairs _ _ hc))
    · exact .none
  block b := by
    have hb := h.block b
    revert hb
    generalize s.block? b = a, t.block? b = b'
    rintro (⟨⟨hb⟩⟩ | _)
    · exact .some (.mk (hpairs _ _ hb))
    · exact .none

/-- Twins are twins in their own world. -/
theorem now (h : s.Twin P t) : s.Twin (P.now s.world) t :=
  h.mono (fun _ _ hpairs => hpairs) ⟨h.covers, rfl⟩

theorem of_now (h : s.Twin (P.now w) t) : s.Twin P t :=
  h.mono (fun _ _ hpairs => hpairs) h.covers.1

end Session.Twin

/-! ## Twin steps -/

namespace Run

variable {α β γ δ : Type} {R : α → β → Prop} {S : γ → δ → Prop}

/-- What comes of the steps in twin sessions are twins again, outcomes as well as sessions. -/
def Twin (P : Pairing) (R : α → β → Prop) (x : Run α) (y : Run β) : Prop :=
  ∀ s t, Session.Twin P s t → Outcome.Twin P R (x s).1 (y t).1 ∧ (x s).2.Twin P (y t).2

theorem twin_pure {a : α} {b : β} (h : R a b) : Twin P R (pure a) (pure b) :=
  fun _ _ hs => ⟨.ok h, hs⟩

theorem twin_throw {f g : Failure} (h : f.Twin P g) : Twin P R (throw f) (throw g) :=
  fun _ _ hs => ⟨.error h, hs⟩

theorem twin_get : Twin P (Session.Twin P) get get := fun _ _ hs => ⟨.ok hs, hs⟩

theorem twin_modify {change change' : Session → Session}
    (h : ∀ s t, Session.Twin P s t → (change s).Twin P (change' t)) :
    Twin P Eq (modify change) (modify change') :=
  fun _ _ hs => ⟨.ok rfl, h _ _ hs⟩

theorem twin_record (e : Event) : Twin P Eq (record e) (record e) :=
  twin_modify fun _ _ hs => hs.record e

theorem twin_resume {x : Except Failure α} {y : Except Failure β} (h : Outcome.Twin P R x y) :
    Twin P R (resume x) (resume y) := fun _ _ hs => ⟨h, hs⟩

theorem Twin.bind {x : Run α} {y : Run β} {next : α → Run γ} {next' : β → Run δ}
    (h : Twin P R x y) (hnext : ∀ a b, R a b → Twin P S (next a) (next' b)) :
    Twin P S (x >>= next) (y >>= next') := by
  intro s t hs
  obtain ⟨houtcome, hsession⟩ := h s t hs
  rw [bind_apply, bind_apply]
  rcases hx : x s with ⟨a, u⟩
  rcases hy : y t with ⟨b, v⟩
  rw [hx, hy] at houtcome hsession
  cases houtcome with
  | ok hab => exact hnext _ _ hab u v hsession
  | error hf => exact ⟨.error hf, hsession⟩

theorem Twin.attempt {x : Run α} {y : Run β} (h : Twin P R x y) :
    Twin P (Outcome.Twin P R) (Run.attempt x) (Run.attempt y) :=
  fun s t hs => ⟨.ok (h s t hs).1, (h s t hs).2⟩

theorem Twin.followedBy {x : Run α} {y : Run β} {after after' : Run Unit}
    (hafter : Twin P Eq after after') (h : Twin P R x y) :
    Twin P R (Run.followedBy after x) (Run.followedBy after' y) :=
  h.attempt.bind fun _ _ houtcome => hafter.bind fun _ _ _ => twin_resume houtcome

theorem twin_world : Twin P (fun v w => w = v ∧ P.Covers v) world world :=
  fun _ _ hs => ⟨.ok ⟨hs.world, hs.covers⟩, hs⟩

theorem twin_cursor (c : CursorId) : Twin P (Cursor.Twin P) (Run.cursor c) (Run.cursor c) := by
  refine twin_get.bind fun s t hs => ?_
  have hc := hs.cursor c
  revert hc
  generalize s.cursor? c = a, t.cursor? c = b
  rintro (hc | _)
  · exact twin_pure hc
  · exact twin_throw (.unplaced rfl)

theorem twin_block (b : BlockId) : Twin P (Block.Twin P) (Run.block b) (Run.block b) := by
  refine twin_get.bind fun s t hs => ?_
  have hb := hs.block b
  revert hb
  generalize s.block? b = a, t.block? b = b'
  rintro (hb | _)
  · exact twin_pure hb
  · exact twin_throw (.unplaced rfl)

end Run

/-! ## Failing at a place -/

section

variable {α β : Type} {R : α → β → Prop}

theorem twin_mismatchAt (h : P.Pairs c d) (path : List Node) (reason : Mismatch) :
    Run.Twin P R (mismatchAt c path reason) (mismatchAt d path reason) := by
  intro s t hs
  obtain ⟨place, hplace⟩ := (P.prints h hs.covers).exists_place path
  obtain ⟨place', hplace'⟩ := (P.prints' h hs.covers).exists_place path
  rw [mismatchAt_apply, mismatchAt_apply, hs.world, Config.mismatch_of_location hplace,
    Config.mismatch_of_location hplace']
  exact ⟨.error (.mismatch reason h hs.covers hplace hplace'), hs⟩

theorem twin_misuseAt (h : P.Pairs c d) (path : List Node) (reason : Misuse) :
    Run.Twin P R (misuseAt c path reason) (misuseAt d path reason) := by
  intro s t hs
  obtain ⟨place, hplace⟩ := (P.prints h hs.covers).exists_place path
  obtain ⟨place', hplace'⟩ := (P.prints' h hs.covers).exists_place path
  rw [misuseAt_apply, misuseAt_apply, hs.world, Config.misuse_of_location hplace,
    Config.misuse_of_location hplace']
  exact ⟨.error (.misuse reason h hs.covers hplace hplace'), hs⟩

theorem twin_assertionAt (h : P.Pairs c d) (path : List Node) {f g : Failure}
    (hfg : g.asCause = f.asCause) :
    Run.Twin P R (assertionAt c path f) (assertionAt d path g) := by
  intro s t hs
  obtain ⟨place, hplace⟩ := (P.prints h hs.covers).exists_place path
  obtain ⟨place', hplace'⟩ := (P.prints' h hs.covers).exists_place path
  have hkind : g.kind = f.kind := congrArg Cause.kind hfg
  rw [assertionAt_apply, assertionAt_apply, hs.world, Config.locate, Config.locate, hplace, hplace',
    P.namesOf h, hkind]
  refine ⟨.error ?_, hs.record _⟩
  simp only [Failure.located, hfg]
  exact .mismatch _ h hs.covers hplace hplace'

end

/-! ## Asking -/

section

variable (h : P.Pairs c d) (hw : P.Covers w)

include h hw

theorem twin_ask (n : Node) :
    Outcome.Twin P Eq ((c.view w).ask n) ((d.view w).ask n) := by
  rw [P.view h]
  cases hask : (c.view w).ask n with
  | ok children => exact .ok rfl
  | error f => exact .error (.asked h hw (.children (View.refusal_of_ask hask)))

theorem twin_askType (n : Node) (type : NodeType) :
    Outcome.Twin P Eq ((c.view w).askType n type) ((d.view w).askType n type) := by
  rw [P.view h]
  cases hask : (c.view w).askType n type with
  | ok fits => exact .ok rfl
  | error f => exact .error (.asked h hw (.type (View.typeRefusal_of_askType hask)))

theorem twin_labelFor (path : List Node) (n : Node) :
    Outcome.Twin P Eq (labelFor (c.view w) path n) (labelFor (d.view w) path n) := by
  rw [P.view h]
  cases hlabel : labelFor (c.view w) path n with
  | ok label => exact .ok rfl
  | error f =>
      obtain ⟨p, -, hf⟩ := labelFor_eq_error hlabel
      exact .error (.asked h hw (.children hf))

end

/-! ## Cursors -/

namespace CursorId

theorem twin_checkUsable (c : CursorId) : Run.Twin P Eq c.checkUsable c.checkUsable := by
  refine (twin_cursor c).bind ?_
  rintro cursor _ ⟨hpairs⟩
  dsimp only
  split
  · exact twin_misuseAt hpairs _ _
  cases cursor.activeChild with
  | none => exact twin_pure rfl
  | some a =>
      refine (twin_cursor a).bind ?_
      rintro child _ ⟨-⟩
      refine twin_world.bind ?_
      rintro _ w ⟨rfl, -⟩
      rw [P.view hpairs]
      exact twin_misuseAt hpairs _ _

theorem twin_checkChildrenMatter (c : CursorId) :
    Run.Twin P Eq c.checkChildrenMatter c.checkChildrenMatter := by
  refine (twin_cursor c).bind ?_
  rintro cursor _ ⟨hpairs⟩
  dsimp only
  split
  · exact twin_misuseAt hpairs _ _
  · exact twin_pure rfl

theorem twin_takeChild (c : CursorId) : Run.Twin P Eq c.takeChild c.takeChild := by
  refine (twin_cursor c).bind ?_
  rintro cursor _ ⟨hpairs⟩
  dsimp only
  cases cursor.children[cursor.next]? with
  | none => exact twin_mismatchAt hpairs _ _
  | some n =>
      refine (twin_modify fun s t hs => hs.modifyCursor c ?_).bind fun _ _ _ => twin_pure rfl
      rintro cursor _ ⟨hpairs⟩
      exact .mk hpairs

theorem twin_checkChildCount (c : CursorId) :
    Run.Twin P Eq c.checkChildCount c.checkChildCount := by
  refine (twin_cursor c).bind ?_
  rintro cursor _ ⟨hpairs⟩
  dsimp only
  split
  · exact twin_mismatchAt hpairs _ _
  · exact twin_pure rfl

end CursorId

/-! ## Blocks -/

namespace BlockId

theorem twin_takeNode (b : BlockId) : Run.Twin P Eq b.takeNode b.takeNode := by
  refine (twin_block b).bind ?_
  rintro block _ ⟨-⟩
  dsimp only
  cases block.parentCursor with
  | none => exact twin_pure rfl
  | some c =>
      refine c.twin_checkUsable.bind fun _ _ _ => c.twin_takeChild.bind ?_
      rintro n _ rfl
      refine (twin_modify fun s t hs => hs.modifyBlock b ?_).bind fun _ _ _ => twin_pure rfl
      rintro block _ ⟨hpairs⟩
      exact .mk hpairs

theorem twin_labelOf (b : BlockId) (n : Node) : Run.Twin P Eq (b.labelOf n) (b.labelOf n) := by
  refine (twin_block b).bind ?_
  rintro block _ ⟨hpairs⟩
  refine twin_world.bind ?_
  rintro _ w ⟨rfl, hw⟩
  exact twin_resume (twin_labelFor hpairs hw _ n)

theorem twin_checkType (b : BlockId) (label : Label) (n : Node) :
    Run.Twin P Eq (b.checkType label n) (b.checkType label n) := by
  refine (twin_block b).bind ?_
  rintro block _ ⟨hpairs⟩
  refine twin_world.bind ?_
  rintro _ w ⟨rfl, hw⟩
  refine (twin_resume (twin_askType hpairs hw n _)).bind ?_
  rintro fits _ rfl
  rw [P.view hpairs]
  split
  · exact twin_mismatchAt hpairs _ _
  · exact twin_pure rfl

theorem twin_checkParent (b : BlockId) (label : Label) (n : Node) :
    Run.Twin P Eq (b.checkParent label n) (b.checkParent label n) := by
  refine (twin_block b).bind ?_
  rintro block _ ⟨hpairs⟩
  refine twin_world.bind ?_
  rintro _ w ⟨rfl, -⟩
  rw [P.view hpairs]
  dsimp only
  cases block.parentPath.getLast? with
  | none => exact twin_pure rfl
  | some p =>
      dsimp only
      split
      · exact twin_mismatchAt hpairs _ _
      · exact twin_pure rfl

theorem twin_attach (b : BlockId) (label : Label) (n : Node) :
    Run.Twin P Eq (b.attach label n) (b.attach label n) := by
  refine (twin_block b).bind ?_
  rintro block _ ⟨hpairs⟩
  refine twin_world.bind ?_
  rintro _ w ⟨rfl, hw⟩
  have hview := P.view hpairs w
  dsimp only
  rw [hview]
  refine (twin_record _).bind fun _ _ _ => ?_
  have hask := twin_ask hpairs hw n
  rw [hview] at hask
  refine (twin_resume hask).bind ?_
  rintro children _ rfl
  refine twin_get.bind fun s t hs => ?_
  rw [hs.freshCursor]
  refine (twin_modify fun s t hs => hs.addCursor (.mk hpairs)).bind fun _ _ _ => ?_
  refine (twin_modify fun s t hs => hs.modifyBlock b ?_).bind fun _ _ _ => ?_
  · rintro block _ ⟨hpairs⟩
    exact .mk hpairs
  · cases block.parentCursor with
    | none => exact twin_pure rfl
    | some p =>
        refine (twin_modify fun s t hs => hs.modifyCursor p ?_).bind fun _ _ _ => twin_pure rfl
        rintro cursor _ ⟨hpairs⟩
        exact .mk hpairs

theorem twin_open (b : BlockId) : Run.Twin P Eq b.open b.open := by
  refine (twin_block b).bind ?_
  rintro block _ ⟨-⟩
  dsimp only
  split
  · exact twin_throw (.unplaced rfl)
  refine (twin_takeNode b).bind ?_
  rintro n _ rfl
  refine (twin_labelOf b n).bind ?_
  rintro label _ rfl
  exact (twin_checkType b label n).bind fun _ _ _ => (twin_checkParent b label n).bind fun _ _ _ =>
    twin_attach b label n

theorem twin_checkImplicit (b : BlockId) : Run.Twin P Eq b.checkImplicit b.checkImplicit := by
  refine (twin_block b).bind ?_
  rintro block _ ⟨hpairs⟩
  dsimp only
  rw [P.implicit hpairs]
  cases hi : block.config.implicit with
  | none => exact twin_pure rfl
  | some check =>
      refine (twin_record _).bind fun _ _ _ => twin_world.bind ?_
      rintro _ w ⟨rfl, hw⟩
      cases hf : check.run w block.node with
      | ok _ => exact twin_resume (.ok rfl)
      | error f => exact twin_resume (.error (.checked hpairs hw hi hf))

theorem twin_cursor (b : BlockId) : Run.Twin P Eq b.cursor b.cursor := by
  refine (twin_block b).bind ?_
  rintro block _ ⟨-⟩
  dsimp only
  cases block.cursor with
  | some c => exact twin_pure rfl
  | none => exact twin_throw (.unplaced rfl)

/-- Assertions are located alike, if they are the same. -/
theorem twin_locate {α β : Type} {R : α → β → Prop} (b : BlockId) {f g : Failure}
    (hfg : g.asCause = f.asCause) : Run.Twin P R
      (do
        let cursor ← Run.cursor (← b.cursor)
        assertionAt cursor.config cursor.path f)
      (do
        let cursor ← Run.cursor (← b.cursor)
        assertionAt cursor.config cursor.path g) := by
  refine (twin_cursor b).bind ?_
  rintro c _ rfl
  refine (Run.twin_cursor c).bind ?_
  rintro cursor _ ⟨hpairs⟩
  exact twin_assertionAt hpairs _ hfg

theorem twin_locating {α β : Type} {R : α → β → Prop} (b : BlockId) {x : Run α} {y : Run β}
    (h : Run.Twin P R x y) : Run.Twin P R (b.locating x) (b.locating y) := by
  refine h.attempt.bind ?_
  rintro _ _ (hab | hfg)
  · exact twin_pure hab
  · dsimp only
    rw [hfg.parallel.wantsLocation]
    split
    · next hf => exact twin_locate b (hfg.parallel.asCause hf)
    · exact twin_throw hfg

theorem twin_close (b : BlockId) : Run.Twin P Eq b.close b.close := by
  refine (twin_locating b (twin_checkImplicit b)).bind fun _ _ _ => (twin_cursor b).bind ?_
  rintro c _ rfl
  exact c.twin_checkChildCount

theorem twin_release (b : BlockId) : Run.Twin P Eq b.release b.release := by
  refine (twin_cursor b).bind ?_
  rintro c _ rfl
  refine (twin_modify fun s t hs => hs.modifyCursor c ?_).bind fun _ _ _ => (twin_block b).bind ?_
  · rintro cursor _ ⟨hpairs⟩
    exact .mk hpairs
  rintro block _ ⟨-⟩
  dsimp only
  cases block.parentCursor with
  | none => exact twin_pure rfl
  | some p =>
      refine twin_modify fun s t hs => hs.modifyCursor p ?_
      rintro cursor _ ⟨hpairs⟩
      exact .mk hpairs

/-- A block is left alike with failures from which it makes the same.  They may be older than what is
compared here. -/
theorem twin_exit (b : BlockId) {failure failure' : Option Failure}
    (h : Option.Rel Failure.Parallel failure failure') :
    Run.Twin P Eq (b.exit failure) (b.exit failure') := by
  refine (twin_release b).followedBy ?_
  cases h with
  | none => exact twin_close b
  | @some f g hfg =>
      dsimp only
      rw [hfg.wantsLocation]
      cases hf : f.wantsLocation with
      | false => exact twin_pure rfl
      | true =>
          have hlocate : ∀ f : Failure, f.wantsLocation = true →
              b.locating (throw f : Run Unit) = (do
                let cursor ← Run.cursor (← b.cursor)
                assertionAt cursor.config cursor.path f) := by
            intro f hf
            funext s
            simp only [locating, bind_apply, attempt_apply, andThen_ok, throw_apply, hf, if_true]
          rw [if_pos rfl, if_pos rfl, hlocate f hf, hlocate g (hfg.wantsLocation.trans hf)]
          exact twin_locate b (hfg.asCause hf)

end BlockId

/-! ## Making blocks -/

theorem Run.twin_newBlock {block block' : Block} (h : block.Twin P block') :
    Run.Twin P Eq (Run.newBlock block) (Run.newBlock block') := by
  refine twin_get.bind fun s t hs => ?_
  rw [hs.freshBlock]
  exact (twin_modify fun s t hs => hs.addBlock h).bind fun _ _ _ => twin_pure rfl

theorem Config.twin_blockAt (h : P.Pairs c d) (e : Expected) (parentPath : List Node) (n : Node) :
    Run.Twin P Eq (c.blockAt e parentPath n) (d.blockAt e parentPath n) :=
  twin_newBlock (.mk h)

theorem Config.twin_matching (h : P.Pairs c d) (e : Expected) (root : Node) :
    Run.Twin P Eq (c.matching e root) (d.matching e root) := by
  have hroot : Run.Twin P Eq (c.checkRoot e root) (d.checkRoot e root) := by
    unfold checkRoot
    split
    · refine twin_world.bind ?_
      rintro _ w ⟨rfl, -⟩
      rw [P.view h]
      exact twin_throw (.unplaced rfl)
    · exact twin_pure rfl
  exact hroot.bind fun _ _ _ => twin_blockAt h e [] root

theorem CursorId.twin_childBlock (c : CursorId) (e : Expected) :
    Run.Twin P Eq (c.childBlock e) (c.childBlock e) := by
  refine c.twin_checkUsable.bind fun _ _ _ => c.twin_checkChildrenMatter.bind fun _ _ _ =>
    (twin_cursor c).bind ?_
  rintro cursor _ ⟨hpairs⟩
  exact twin_newBlock (.mk hpairs)

theorem CursorId.twin_skip (c : CursorId) (count : Int) :
    Run.Twin P Eq (c.skip count) (c.skip count) := by
  unfold skip
  split
  · exact fun _ _ hs => ⟨.error (.unplaced rfl), hs⟩
  refine c.twin_checkUsable.bind fun _ _ _ => c.twin_checkChildrenMatter.bind fun _ _ _ =>
    (twin_cursor c).bind ?_
  rintro cursor _ ⟨hpairs⟩
  dsimp only
  split
  · exact twin_mismatchAt hpairs _ _
  · refine twin_modify fun s t hs => hs.modifyCursor c ?_
    rintro cursor _ ⟨hpairs⟩
    exact .mk hpairs

end TreeShape
