import TreeShape.Proofs.Activity.Accounting

/-!
# Which cursors can be used

In a moment of an orderly run a cursor can be used exactly if its own block has not been left and no
block of a child of its is open.  Where it cannot, every call on it comes to nothing, and so does
entering a block that it made: the call fails as a misuse at the cursor's place, and the session stays
as it was.

## Strategy

All calls begin with the same check of the cursor, so one failure of the check is enough for all of
them: `CursorId.isRefused_of_check` goes through the calls.  `checkUsable_iff` says when the check
fails, which is where `Moment.Accounted` is used: what the check reads off the cursor is what has
happened to blocks.
-/

namespace TreeShape

open Run

/-! ## Calls that come to nothing -/

/-- A call fails as a misuse of the cursor, and changes nothing. -/
def Cursor.Refuses {α : Type} (cursor : Cursor) (reason : Misuse) (s : Session) (x : Run α) : Prop :=
  x s = (cursor.config.misuse s.world cursor.path reason, s)

namespace Cursor

variable {α β : Type} {cursor : Cursor} {reason : Misuse} {s : Session}

/-- What comes after a call that is refused does not happen. -/
theorem Refuses.bind {x : Run α} (h : cursor.Refuses reason s x) (f : α → Run β) :
    cursor.Refuses reason s (x >>= f) := by
  have hx : x s = (cursor.config.misuse s.world cursor.path reason, s) := h
  rw [Refuses, bind_apply, hx, Config.misuse, Config.misuse]
  cases Location.of cursor.config s.world cursor.path <;> rfl

/-- Calls that fail as others do are refused with them. -/
theorem Refuses.of_error {x : Run α} {y : Run β} (h : cursor.Refuses reason s x)
    (hxy : ∀ f, x s = (.error f, s) → y s = (.error f, s)) : cursor.Refuses reason s y := by
  have hx : x s = (cursor.config.misuse s.world cursor.path reason, s) := h
  rw [Refuses]
  unfold Config.misuse at *
  cases hplace : Location.of cursor.config s.world cursor.path with
  | error f =>
      rw [hplace] at hx
      exact hxy f hx
  | ok place =>
      rw [hplace] at hx
      exact hxy _ hx

end Cursor

/-- Every call on a cursor is refused for a reason, and so is entering a block that it made, be it by
hand or around a part of a script. -/
structure CursorId.IsRefused (c : CursorId) (cursor : Cursor) (reason : Misuse) (s : Session) :
    Prop where
  check : cursor.Refuses reason s c.checkUsable
  skip : ∀ count : Int, 0 ≤ count → cursor.Refuses reason s (c.skip count)
  childBlock : ∀ e, cursor.Refuses reason s (c.childBlock e)
  extract : ∀ {α : Type} (e : Expected) (script : CursorId → Run α),
    cursor.Refuses reason s (c.extractFromChild e script)
  child : ∀ {α : Type} (e : Expected) (script : CursorId → Run α),
    cursor.Refuses reason s (c.child e script)
  enter : ∀ {b block}, s.block? b = some block → block.parentCursor = some c →
    block.cursor = none → cursor.Refuses reason s b.open
  use : ∀ {α : Type} {b block} (form : Use) (body : CursorId → Run α), s.block? b = some block →
    block.parentCursor = some c → block.cursor = none → cursor.Refuses reason s (b.use form body)
  /-- A block that has been entered before is not entered again anyway. -/
  reenter : ∀ {b a}, s.Opened b (some c) a → b.open s = (.error .reentered, s)

/-- All calls begin with the check of the cursor. -/
theorem CursorId.isRefused_of_check {c : CursorId} {cursor : Cursor} {reason : Misuse} {s : Session}
    (h : cursor.Refuses reason s c.checkUsable) : c.IsRefused cursor reason s := by
  -- To take a child, a block checks the cursor above it.
  have henter : ∀ {b block}, s.block? b = some block → block.parentCursor = some c →
      block.cursor = none → cursor.Refuses reason s b.open := by
    intro b block hb hp hc
    have htake : cursor.Refuses reason s b.takeNode :=
      h.of_error fun f hf => BlockId.takeNode_of_checkUsable hb hp hf
    have hopen := htake.bind b.accept
    rwa [Cursor.Refuses, bind_apply, ← BlockId.open_apply hb hc] at hopen
  constructor
  case check => exact h
  case skip =>
    intro count hcount
    exact h.of_error fun f hf => skip_of_checkUsable hcount hf
  case childBlock => exact fun e => h.bind _
  case extract => exact fun e script => (h.bind _).bind _
  case child => exact fun e script => (h.bind _).bind _
  case enter => exact henter
  case use =>
    intro α b block form body hb hp hc
    rw [BlockId.use_eq_within, BlockId.within_eq]
    exact (henter hb hp hc).bind _
  case reenter =>
    rintro b a ⟨block, hb, -, hc⟩
    exact BlockId.open_of_cursor hb hc

/-! ## The account of a cursor -/

namespace Moment

/-- The cursor's own block has not been left, and no block of a child of its is open. -/
structure IsFree (m : Moment) (c : CursorId) : Prop where
  own : ∀ {b parent?}, m.session.Opened b parent? c → b ∉ m.exited
  children : ∀ {b a}, m.session.Opened b (some c) a → ¬ m.IsOpen b

/-- All that a cursor says of itself is true, and calls on it go by that. -/
structure AccountOf (m : Moment) (c : CursorId) (cursor : Cursor) : Prop where
  /-- The cursor belongs to one block, which has been entered, and which is over if the cursor says so. -/
  own : ∃ b parent?, m.session.Opened b parent? c ∧ b ∈ m.entered ∧
    (cursor.closed = true ↔ b ∈ m.exited)
  /-- The active child is the cursor of a block that this cursor made and that is open. -/
  active : ∀ a, cursor.activeChild = some a ↔ ∃ b, m.session.Opened b (some c) a ∧ m.IsOpen b
  unique : ∀ {b b' a a'}, m.session.Opened b (some c) a → m.IsOpen b →
    m.session.Opened b' (some c) a' → m.IsOpen b' → b = b'
  usable : c.checkUsable m.session = (.ok (), m.session) ↔ m.IsFree c
  refused : ¬ m.IsFree c →
    (∃ b parent?, m.session.Opened b parent? c ∧ b ∈ m.exited ∧
      c.IsRefused cursor .afterBlock m.session) ∨
    ∃ b a child, m.session.Opened b (some c) a ∧ m.IsOpen b ∧ m.session.cursor? a = some child ∧
      c.IsRefused cursor
        (.insideChild ((cursor.config.view m.session.world).nodeName child.node)) m.session

namespace Accounted

variable {m : Moment} {c : CursorId} {cursor : Cursor}

theorem exists_own (h : m.Accounted) (hc : m.session.cursor? c = some cursor) :
    ∃ b parent?, m.session.Opened b parent? c := by
  obtain ⟨b, block, hb, hcur⟩ := h.sound.owner hc
  exact ⟨b, block.parentCursor, block, hb, rfl, hcur⟩

theorem isFree_iff (h : m.Accounted) (hc : m.session.cursor? c = some cursor) :
    m.IsFree c ↔ cursor.IsUsable := by
  obtain ⟨b, parent?, hb⟩ := h.exists_own hc
  constructor
  · intro hfree
    constructor
    · rw [← Bool.not_eq_true, h.closed hb hc]
      exact hfree.own hb
    · cases ha : cursor.activeChild with
      | none => rfl
      | some a =>
          obtain ⟨d, hd, hopen⟩ := (h.active hc).mp ha
          exact absurd hopen (hfree.children hd)
  · intro hu
    constructor
    · intro d parent?' hd
      rw [← h.closed hd hc, hu.1]
      exact Bool.false_ne_true
    · exact fun hd => h.not_open_of_isUsable hc hu hd

/-- A cursor that cannot be used refuses all calls. -/
theorem refused (h : m.Accounted) (hc : m.session.cursor? c = some cursor) (hfree : ¬ m.IsFree c) :
    (∃ b parent?, m.session.Opened b parent? c ∧ b ∈ m.exited ∧
      c.IsRefused cursor .afterBlock m.session) ∨
    ∃ b a child, m.session.Opened b (some c) a ∧ m.IsOpen b ∧ m.session.cursor? a = some child ∧
      c.IsRefused cursor
        (.insideChild ((cursor.config.view m.session.world).nodeName child.node)) m.session := by
  obtain ⟨b, parent?, hb⟩ := h.exists_own hc
  cases hclosed : cursor.closed with
  | true =>
      refine .inl ⟨b, parent?, hb, (h.closed hb hc).mp hclosed, ?_⟩
      exact CursorId.isRefused_of_check (CursorId.checkUsable_of_closed hc hclosed)
  | false =>
      cases ha : cursor.activeChild with
      | none => exact absurd ((h.isFree_iff hc).mpr ⟨hclosed, ha⟩) hfree
      | some a =>
          obtain ⟨d, hd, hopen⟩ := (h.active hc).mp ha
          obtain ⟨child, hchild⟩ := h.sound.exists_own hd
          refine .inr ⟨d, a, child, hd, hopen, hchild, ?_⟩
          exact CursorId.isRefused_of_check
            (CursorId.checkUsable_of_activeChild hc hclosed ha hchild)

/-- The check lets through the cursors that are free, and no others. -/
theorem checkUsable_iff (h : m.Accounted) (hc : m.session.cursor? c = some cursor) :
    c.checkUsable m.session = (.ok (), m.session) ↔ m.IsFree c := by
  constructor
  · intro hcheck
    rcases c.checkUsable_cases m.session with ⟨f, hf⟩ | ⟨cursor', hcursor', hu⟩
    · rw [hcheck] at hf
      cases hf
    · exact (h.isFree_iff hcursor').mpr hu
  · intro hfree
    exact CursorId.checkUsable_of_isUsable hc ((h.isFree_iff hc).mp hfree)

theorem accountOf (h : m.Accounted) (hc : m.session.cursor? c = some cursor) :
    m.AccountOf c cursor := by
  obtain ⟨b, parent?, hb⟩ := h.exists_own hc
  constructor
  case own => exact ⟨b, parent?, hb, h.entered.mpr ⟨_, _, hb⟩, h.closed hb hc⟩
  case active => exact fun a => h.active hc
  case unique =>
    intro d d' a a' hd hopen hd' hopen'
    have ha := (h.active hc).mpr ⟨d, hd, hopen⟩
    have ha' := (h.active hc).mpr ⟨d', hd', hopen'⟩
    rw [ha] at ha'
    cases ha'
    exact h.sound.opened_injective hd hd'
  case usable => exact h.checkUsable_iff hc
  case refused => exact h.refused hc

end Accounted

end Moment

end TreeShape
