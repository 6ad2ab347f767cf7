import TreeShape.Matching.Start

/-!
# What the steps of a match do

A match is made of few steps: checks, which change nothing, and four changes of the session.  A block
*takes* the next child of its parent's cursor, it *attaches* a cursor of its own, the cursor *advances*
over children, and the block is *released*.  Here each step is put as an equation between what it is
applied to and what comes of it, so that later proofs need not look inside the steps.

Whether a step fails is decided before it changes anything, with one exception: a block that has taken a
child may still refuse it.

Two vocabularies are used throughout.  Where the outcome matters there is a lemma that ends in `_apply`
or, for one of the outcomes, one that names its condition, and a lemma that ends in `_cases` where it
does not.  Where only the session matters there is `Run.Keeps`: whatever comes of a step, the sessions
before and after it are related.  Such facts are put together along `bind`, `Keeps.bind`, for any
relation that does not look at the trace, `Session.IsCarried`.

Skipping is met in every recursion on items.  All that it can come to on a cursor that can be used is
said once, by the three cases of `CursorId.Skipping`, with what each of them means for this cursor and
for the others.
-/

namespace TreeShape

open Run

theorem Run.discard_bind {α β : Type} (x : Run α) (next : Unit → Run β) :
    (discard x >>= next) = (x >>= fun _ => next ()) := by
  funext s
  have hdiscard : discard x = (do let _ ← x; pure () : Run Unit) := rfl
  rw [hdiscard, bind_apply, bind_apply, bind_apply]
  rcases x s with ⟨_ | _, _⟩ <;> rfl

/-! ## Relations that runs keep -/

namespace Session

/-- Nothing but the trace differs. -/
def Silent (s t : Session) : Prop := t = { s with trace := t.trace }

theorem Silent.refl (s : Session) : Silent s s := rfl

theorem Silent.trans {s t u : Session} (hst : Silent s t) (htu : Silent t u) : Silent s u := by
  unfold Silent at *
  rw [htu, hst]

theorem silent_record (s : Session) (e : Event) : Silent s (s.record e) := rfl

theorem Silent.world {s t : Session} (h : Silent s t) : t.world = s.world := by rw [h]

theorem Silent.cursor? {s t : Session} (h : Silent s t) (c : CursorId) :
    t.cursor? c = s.cursor? c := by rw [h]; rfl

theorem Silent.block? {s t : Session} (h : Silent s t) (b : BlockId) : t.block? b = s.block? b := by
  rw [h]; rfl

theorem Silent.freshCursor {s t : Session} (h : Silent s t) : t.freshCursor = s.freshCursor := by
  rw [h]; rfl

/-- A relation between a session and a later one that does not look at the trace, and that holds of a
sequence of steps if it holds of each. -/
class IsCarried (R : Session → Session → Prop) : Prop where
  silent {s t : Session} : s.Silent t → R s t
  trans {s t u : Session} : R s t → R t u → R s u

instance : IsCarried Silent := ⟨id, Silent.trans⟩

theorem IsCarried.refl {R : Session → Session → Prop} [IsCarried R] (s : Session) : R s s :=
  silent (.refl s)

end Session

/-- The node that an event tells to have been checked. -/
def Event.check? : Event → Option Node
  | .checked n => some n
  | _ => none

/-- The nodes for which the implicit check was made, in order. -/
def Session.checks (s : Session) : List Node := s.trace.toList.filterMap Event.check?

theorem Session.checks_record (s : Session) (e : Event) :
    (s.record e).checks = s.checks ++ e.check?.toList := by
  have htrace : (s.record e).trace = s.trace.push e := rfl
  rw [checks, htrace, Array.toList_push, List.filterMap_append, ← checks]
  cases he : e.check? <;> simp [he]

/-- Whatever the outcome of a step, the sessions before and after it are related. -/
structure Run.Keeps {α : Type} (R : Session → Session → Prop) (x : Run α) : Prop where
  after : ∀ s : Session, R s (x s).2

namespace Run

variable {α β : Type} {R : Session → Session → Prop} [Session.IsCarried R]

theorem keeps_pure (a : α) : Keeps R (pure a : Run α) :=
  ⟨Session.IsCarried.refl⟩

theorem keeps_throw (f : Failure) : Keeps R (throw f : Run α) :=
  ⟨Session.IsCarried.refl⟩

theorem keeps_resume (outcome : Except Failure α) : Keeps R (resume outcome) :=
  ⟨Session.IsCarried.refl⟩

theorem keeps_get : Keeps R (get : Run Session) := ⟨Session.IsCarried.refl⟩

theorem keeps_record (e : Event) : Keeps R (record e) :=
  ⟨fun s => Session.IsCarried.silent (Session.silent_record s e)⟩

theorem keeps_world : Keeps R world := ⟨Session.IsCarried.refl⟩

omit [Session.IsCarried R] in
theorem Keeps.of_eq {x : Run α} {s t : Session} {outcome : Except Failure α} (h : Keeps R x)
    (hx : x s = (outcome, t)) : R s t := by
  have hafter := h.after s
  rwa [hx] at hafter

theorem Keeps.bind {x : Run α} {next : α → Run β} (hx : Keeps R x)
    (hnext : ∀ a, Keeps R (next a)) : Keeps R (x >>= next) := by
  refine ⟨fun s => ?_⟩
  have h := hx.after s
  rw [bind_apply]
  rcases hs : x s with ⟨_ | a, t⟩ <;> rw [hs] at h
  · exact h
  · exact Session.IsCarried.trans h ((hnext a).after t)

omit [Session.IsCarried R] in
theorem Keeps.attempt {x : Run α} (hx : Keeps R x) : Keeps R (Run.attempt x) :=
  ⟨hx.after⟩

theorem keeps_cursor (c : CursorId) : Keeps R (Run.cursor c) := by
  refine keeps_get.bind fun s => ?_
  split
  · exact keeps_pure _
  · exact keeps_throw _

theorem keeps_block (b : BlockId) : Keeps R (Run.block b) := by
  refine keeps_get.bind fun s => ?_
  split
  · exact keeps_pure _
  · exact keeps_throw _

end Run

/-! ## Failing at a place -/

namespace Config

variable {α : Type}

/-- What comes of failing with a mismatch at a place.  If the dump fails, it is that failure. -/
def mismatch (c : Config) (w : World) (path : List Node) (reason : Mismatch) : Except Failure α :=
  (Location.of c w path).bind fun place => .error (.mismatch place reason)

/-- What comes of failing with a misuse at a place. -/
def misuse (c : Config) (w : World) (path : List Node) (reason : Misuse) : Except Failure α :=
  (Location.of c w path).bind fun place => .error (.misuse place reason)

/-- Failing with a mismatch fails. -/
theorem exists_mismatch_eq (c : Config) (w : World) (path : List Node) (reason : Mismatch) :
    ∃ f, (c.mismatch w path reason : Except Failure α) = .error f := by
  unfold mismatch
  cases Location.of c w path <;> exact ⟨_, rfl⟩

theorem exists_misuse_eq (c : Config) (w : World) (path : List Node) (reason : Misuse) :
    ∃ f, (c.misuse w path reason : Except Failure α) = .error f := by
  unfold misuse
  cases Location.of c w path <;> exact ⟨_, rfl⟩

theorem mismatch_of_location {c : Config} {w : World} {path : List Node} {place : Location}
    (h : Location.of c w path = .ok place) (reason : Mismatch) :
    (c.mismatch w path reason : Except Failure α) = .error (.mismatch place reason) := by
  rw [mismatch, h]
  rfl

theorem misuse_of_location {c : Config} {w : World} {path : List Node} {place : Location}
    (h : Location.of c w path = .ok place) (reason : Misuse) :
    (c.misuse w path reason : Except Failure α) = .error (.misuse place reason) := by
  rw [misuse, h]
  rfl

end Config

section

variable {α : Type}

theorem mismatchAt_apply (c : Config) (path : List Node) (reason : Mismatch) (s : Session) :
    (mismatchAt c path reason : Run α) s = (c.mismatch s.world path reason, s) := by
  simp only [mismatchAt, Config.mismatch, bind_apply, world_apply, andThen_ok, resume_apply]
  cases Location.of c s.world path <;> rfl

theorem misuseAt_apply (c : Config) (path : List Node) (reason : Misuse) (s : Session) :
    (misuseAt c path reason : Run α) s = (c.misuse s.world path reason, s) := by
  simp only [misuseAt, Config.misuse, bind_apply, world_apply, andThen_ok, resume_apply]
  cases Location.of c s.world path <;> rfl

end

/-! ## Checks and moves of a cursor -/

/-- A cursor can be used while its block is not over and no block of a child is open. -/
def Cursor.IsUsable (cursor : Cursor) : Prop :=
  cursor.closed = false ∧ cursor.activeChild = none

namespace CursorId

variable {s : Session} {c : CursorId} {cursor : Cursor}

theorem cursor_of_missing (h : s.cursor? c = none) : Run.cursor c s = (.error .unopened, s) := by
  simp only [Run.cursor, bind_apply, get_apply, andThen_ok, h]
  rfl

theorem checkUsable_of_isUsable (h : s.cursor? c = some cursor) (hu : cursor.IsUsable) :
    c.checkUsable s = (.ok (), s) := by
  simp only [checkUsable, bind_apply, cursor_apply h, andThen_ok, hu.1, hu.2, Bool.false_eq_true,
    if_false]
  rfl

theorem checkUsable_of_closed (h : s.cursor? c = some cursor) (hc : cursor.closed = true) :
    c.checkUsable s = (cursor.config.misuse s.world cursor.path .afterBlock, s) := by
  simp only [checkUsable, bind_apply, cursor_apply h, andThen_ok, hc, if_true, misuseAt_apply]

theorem checkUsable_of_activeChild {a : CursorId} {child : Cursor} (h : s.cursor? c = some cursor)
    (hc : cursor.closed = false) (ha : cursor.activeChild = some a)
    (hchild : s.cursor? a = some child) :
    c.checkUsable s = (cursor.config.misuse s.world cursor.path
      (.insideChild ((cursor.config.view s.world).nodeName child.node)), s) := by
  simp only [checkUsable, bind_apply, cursor_apply h, andThen_ok, hc, ha, cursor_apply hchild,
    world_apply, misuseAt_apply, Bool.false_eq_true, if_false]

/-- Only usable cursors pass the check. -/
theorem checkUsable_cases (c : CursorId) (s : Session) :
    (∃ f, c.checkUsable s = (.error f, s)) ∨
      ∃ cursor, s.cursor? c = some cursor ∧ cursor.IsUsable := by
  cases h : s.cursor? c with
  | none => exact .inl ⟨.unopened, by simp only [checkUsable, bind_apply, cursor_of_missing h]; rfl⟩
  | some cursor =>
      cases hc : cursor.closed with
      | true =>
          obtain ⟨f, hf⟩ := Config.exists_misuse_eq (α := Unit) cursor.config s.world cursor.path
            .afterBlock
          exact .inl ⟨f, by rw [checkUsable_of_closed h hc, hf]⟩
      | false =>
          cases ha : cursor.activeChild with
          | none => exact .inr ⟨cursor, rfl, hc, ha⟩
          | some a =>
              cases hchild : s.cursor? a with
              | none =>
                  refine .inl ⟨.unopened, ?_⟩
                  simp only [checkUsable, bind_apply, cursor_apply h, andThen_ok, hc, ha,
                    cursor_of_missing hchild, Bool.false_eq_true, if_false, andThen_error]
              | some child =>
                  obtain ⟨f, hf⟩ := Config.exists_misuse_eq (α := Unit) cursor.config s.world
                    cursor.path
                    (.insideChild ((cursor.config.view s.world).nodeName child.node))
                  exact .inl ⟨f, by rw [checkUsable_of_activeChild h hc ha hchild, hf]⟩

theorem checkChildrenMatter_apply (h : s.cursor? c = some cursor) :
    c.checkChildrenMatter s = (if cursor.ignoring then
      cursor.config.misuse s.world cursor.path .childrenIgnored else .ok (), s) := by
  simp only [checkChildrenMatter, bind_apply, cursor_apply h, andThen_ok]
  split
  · exact misuseAt_apply ..
  · rfl

theorem takeChild_apply (h : s.cursor? c = some cursor) :
    c.takeChild s = match cursor.children[cursor.next]? with
      | none => (cursor.config.mismatch s.world cursor.path (.missingChild cursor.next), s)
      | some n =>
        (.ok n, s.modifyCursor c fun cursor => { cursor with next := cursor.next + 1 }) := by
  simp only [takeChild, bind_apply, cursor_apply h, andThen_ok]
  cases cursor.children[cursor.next]? with
  | none => exact mismatchAt_apply ..
  | some n => rfl

theorem checkChildCount_apply (h : s.cursor? c = some cursor) :
    c.checkChildCount s = (if cursor.ignoring || cursor.next == cursor.children.length then .ok ()
      else cursor.config.mismatch s.world cursor.path
        (.childCount cursor.next cursor.children.length), s) := by
  simp only [checkChildCount, bind_apply, cursor_apply h, andThen_ok]
  cases hi : cursor.ignoring <;> by_cases hn : cursor.next = cursor.children.length <;>
    simp [hn, mismatchAt_apply, pure_apply]

/-- A cursor whose children matter skips children that exist. -/
theorem skip_apply {count : Nat} (h : s.cursor? c = some cursor) (hu : cursor.IsUsable)
    (hm : cursor.ignoring = false) :
    c.skip count s = if cursor.children.length < cursor.next + count then
        (cursor.config.mismatch s.world cursor.path (.missingChild (cursor.next + count - 1)), s)
      else (.ok (), s.modifyCursor c fun old => { old with next := cursor.next + count }) := by
  have hcount : ¬ ((count : Int) < 0) := by omega
  simp only [skip, bind_apply, if_neg hcount, andThen_ok, checkUsable_of_isUsable h hu,
    checkChildrenMatter_apply h, hm, cursor_apply h, Int.toNat_natCast, Bool.false_eq_true, if_false]
  split
  · exact mismatchAt_apply ..
  · rfl

theorem skip_of_ignoring {count : Nat} (h : s.cursor? c = some cursor) (hu : cursor.IsUsable)
    (hm : cursor.ignoring = true) :
    c.skip count s = (cursor.config.misuse s.world cursor.path .childrenIgnored, s) := by
  have hcount : ¬ ((count : Int) < 0) := by omega
  obtain ⟨f, hf⟩ := Config.exists_misuse_eq (α := Unit) cursor.config s.world cursor.path
    .childrenIgnored
  simp only [skip, bind_apply, if_neg hcount, andThen_ok, checkUsable_of_isUsable h hu,
    checkChildrenMatter_apply h, hm, if_true, hf, andThen_error]

/-- What skipping comes to on a cursor that can be used: its children do not matter, or there are not so
many of them, or it has advanced and no other cursor has changed. -/
inductive Skipping (s : Session) (c : CursorId) (cursor : Cursor) (count : Nat) :
    Except Failure Unit → Session → Prop
  | ignored {f : Failure} : cursor.ignoring = true →
      (cursor.config.misuse s.world cursor.path .childrenIgnored : Except Failure Unit) = .error f →
      Skipping s c cursor count (.error f) s
  | tooFar {f : Failure} : cursor.ignoring = false → cursor.children.length < cursor.next + count →
      (cursor.config.mismatch s.world cursor.path (.missingChild (cursor.next + count - 1)) :
        Except Failure Unit) = .error f →
      Skipping s c cursor count (.error f) s
  | advanced : cursor.ignoring = false → cursor.next + count ≤ cursor.children.length →
      (s.modifyCursor c fun old => { old with next := cursor.next + count }).cursor? c =
        some { cursor with next := cursor.next + count } →
      (∀ d old, d ≠ c → s.cursor? d = some old →
        (s.modifyCursor c fun old => { old with next := cursor.next + count }).cursor? d = some old) →
      Skipping s c cursor count (.ok ())
        (s.modifyCursor c fun old => { old with next := cursor.next + count })

theorem skipping (h : s.cursor? c = some cursor) (hu : cursor.IsUsable) (count : Nat) :
    Skipping s c cursor count (c.skip count s).1 (c.skip count s).2 := by
  cases hm : cursor.ignoring with
  | true =>
      obtain ⟨f, hf⟩ := Config.exists_misuse_eq (α := Unit) cursor.config s.world cursor.path
        .childrenIgnored
      rw [skip_of_ignoring h hu hm, hf]
      exact .ignored hm hf
  | false =>
      rw [skip_apply h hu hm]
      by_cases hlen : cursor.children.length < cursor.next + count
      · obtain ⟨f, hf⟩ := Config.exists_mismatch_eq (α := Unit) cursor.config s.world cursor.path
          (.missingChild (cursor.next + count - 1))
        rw [if_pos hlen, hf]
        exact .tooFar hm hlen hf
      · rw [if_neg hlen]
        refine .advanced hm (Nat.not_lt.mp hlen) (Session.cursor?_modifyCursor_self h _) ?_
        intro d old hd hold
        rw [Session.cursor?_modifyCursor, if_neg hd, hold]

theorem skipping_of_eq {count : Nat} {outcome : Except Failure Unit} {t : Session}
    (h : s.cursor? c = some cursor) (hu : cursor.IsUsable) (hskip : c.skip count s = (outcome, t)) :
    Skipping s c cursor count outcome t := by
  have hskipping := skipping h hu count
  rwa [hskip] at hskipping

/-- A failing check of the cursor is all there is to skipping and to making a block. -/
theorem skip_of_checkUsable {count : Int} {f : Failure} (hcount : 0 ≤ count)
    (h : c.checkUsable s = (.error f, s)) : c.skip count s = (.error f, s) := by
  simp only [skip, if_neg (Int.not_lt.mpr hcount), bind_apply, h, andThen_error]

theorem childBlock_of_checkUsable {e : Expected} {f : Failure}
    (h : c.checkUsable s = (.error f, s)) : c.childBlock e s = (.error f, s) := by
  simp only [childBlock, bind_apply, h, andThen_error]

/-- The block that a cursor makes for its next child. -/
def blockFor (cursor : Cursor) (c : CursorId) (e : Expected) : Block :=
  ⟨cursor.config, e, cursor.path, some c, .absent, none⟩

theorem childBlock_apply (h : s.cursor? c = some cursor) (hu : cursor.IsUsable) (e : Expected) :
    c.childBlock e s = if cursor.ignoring then
        (cursor.config.misuse s.world cursor.path .childrenIgnored, s)
      else (.ok s.freshBlock, s.addBlock (blockFor cursor c e)) := by
  simp only [childBlock, bind_apply, checkUsable_of_isUsable h hu, andThen_ok,
    checkChildrenMatter_apply h]
  cases cursor.ignoring with
  | true =>
      simp only [if_true, Config.misuse]
      cases Location.of cursor.config s.world cursor.path <;> rfl
  | false =>
      simp only [Bool.false_eq_true, if_false, andThen_ok, bind_apply, cursor_apply h]
      rfl

/-- Skipping fails and changes nothing, or the cursor advances. -/
theorem skip_cases (c : CursorId) (count : Int) (s : Session) :
    (∃ f, c.skip count s = (.error f, s)) ∨
      ∃ cursor, s.cursor? c = some cursor ∧ cursor.IsUsable ∧ cursor.ignoring = false ∧
        cursor.next + count.toNat ≤ cursor.children.length ∧
        c.skip count s = (.ok (), s.modifyCursor c fun old =>
          { old with next := cursor.next + count.toNat }) := by
  by_cases hcount : count < 0
  · refine .inl ⟨.negativeSkip count, ?_⟩
    simp only [skip, if_pos hcount, bind_apply, throw_apply, andThen_error]
  rcases c.checkUsable_cases s with ⟨f, hf⟩ | ⟨cursor, hcursor, hu⟩
  · exact .inl ⟨f, skip_of_checkUsable (Int.not_lt.mp hcount) hf⟩
  -- From here on the count is a natural number.
  obtain ⟨k, rfl⟩ : ∃ k : Nat, count = k := ⟨count.toNat, by omega⟩
  rcases hskip : c.skip k s with ⟨outcome, t⟩
  cases skipping_of_eq hcursor hu hskip with
  | ignored => exact .inl ⟨_, rfl⟩
  | tooFar => exact .inl ⟨_, rfl⟩
  | advanced hm hle => exact .inr ⟨cursor, hcursor, hu, hm, hle, rfl⟩

/-- Making a block for a child fails and changes nothing, or there is one more block. -/
theorem childBlock_cases (c : CursorId) (e : Expected) (s : Session) :
    (∃ f, c.childBlock e s = (.error f, s)) ∨
      ∃ cursor, s.cursor? c = some cursor ∧ cursor.IsUsable ∧ cursor.ignoring = false ∧
        c.childBlock e s = (.ok s.freshBlock, s.addBlock (blockFor cursor c e)) := by
  rcases c.checkUsable_cases s with ⟨f, hf⟩ | ⟨cursor, hcursor, hu⟩
  · exact .inl ⟨f, childBlock_of_checkUsable hf⟩
  rw [childBlock_apply hcursor hu]
  cases hm : cursor.ignoring with
  | true =>
      obtain ⟨f, hf⟩ := Config.exists_misuse_eq (α := BlockId) cursor.config s.world cursor.path
        .childrenIgnored
      exact .inl ⟨f, by rw [if_pos rfl, hf]⟩
  | false => exact .inr ⟨cursor, hcursor, hu, hm, rfl⟩

end CursorId

end TreeShape
