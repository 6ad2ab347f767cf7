import TreeShape.Proofs.Activity.Nesting
import TreeShape.Proofs.Sample

/-!
# What cursors say in every run

The invariants put together: in every moment of every orderly run each cursor's account is true
(`Moment.Accounted.accountOf`), and where blocks are only used they are nested all the time
(`Moment.Nested`).  Once such a script is over, no block is open that was not open before, so that every
cursor which the script made is over and has no active child.
-/

namespace TreeShape

namespace Moment

/-- No block inside an open one hangs on a block that is over, and no cursor that is over has an active
child. -/
structure InPlace (m : Moment) : Prop where
  around : ∀ {b o parent? p c}, m.session.Opened b (some p) c → m.IsOpen b →
    m.session.Opened o parent? p → m.IsOpen o
  closed : ∀ {c cursor}, m.session.cursor? c = some cursor → cursor.closed = true →
    cursor.activeChild = none

/-- Where no block is open, every cursor is over and has no active child. -/
theorem Accounted.of_openBlocks {m : Moment} (h : m.Accounted) (hm : m.openBlocks = []) {c : CursorId}
    {cursor : Cursor} (hc : m.session.cursor? c = some cursor) :
    cursor.closed = true ∧ cursor.activeChild = none := by
  have hnone : ∀ b, ¬ m.IsOpen b := by
    intro b hb
    rw [← mem_openBlocks, hm] at hb
    cases hb
  obtain ⟨b, parent?, hb⟩ := h.exists_own hc
  constructor
  · have hentered : b ∈ m.entered := h.entered.mpr ⟨_, _, hb⟩
    rw [h.closed hb hc]
    exact Decidable.byContradiction fun hexited => hnone b ⟨hentered, hexited⟩
  · cases ha : cursor.activeChild with
    | none => rfl
    | some a =>
        obtain ⟨d, -, hopen⟩ := (h.active hc).mp ha
        exact absurd hopen (hnone d)

/-- Every run of deeds in which only open blocks are left keeps the cursors' accounts true.  Running a
script is such a run; if the script only uses blocks, it leaves them in the opposite order, the blocks
stay nested all the time, and in the end every cursor is over. -/
theorem account_of_run (w : World) :
    (∀ ds, (start w).Orderly ds → ∀ c cursor,
      ((start w).afterAll ds).session.cursor? c = some cursor →
        ((start w).afterAll ds).AccountOf c cursor) ∧
    (∀ p : Script, ((start w).afterAll (p.deeds (start w).session)).session =
      (p.run (start w).session).2) ∧
    ∀ p : Script, p.IsBracketed →
      (start w).LastFirst (p.deeds (start w).session) ∧
      (start w).Orderly (p.deeds (start w).session) ∧
      (∀ ds rest, p.deeds (start w).session = ds ++ rest → ((start w).afterAll ds).InPlace) ∧
      ∀ c cursor, (p.run (start w).session).2.cursor? c = some cursor →
        cursor.closed = true ∧ cursor.activeChild = none := by
  refine ⟨?_, ?_, ?_⟩
  · intro ds hds c cursor hc
    exact ((accounted_start w).afterAll hds).accountOf hc
  · exact fun p => p.session_afterAll_deeds (start w)
  · intro p hp
    -- A script that only uses blocks leaves the last one first, and in the end none is open.
    obtain ⟨hlast, hend⟩ := hp.lastFirst (nested_start w)
    refine ⟨hlast, hlast.orderly, ?_, ?_⟩
    · intro ds rest hsplit
      rw [hsplit, lastFirst_append] at hlast
      have hnested := (nested_start w).afterAll hlast.1
      exact ⟨hnested.isOpen_own, hnested.activeChild_of_closed⟩
    · intro c cursor hc
      rw [← p.session_afterAll_deeds (start w)] at hc
      exact ((accounted_start w).afterAll hlast.orderly).of_openBlocks hend hc

/-- Enters the pair, and leaves it while the block of its first child is open. -/
def sampleDeeds : List Deed :=
  [.matching Sample.config ⟨Sample.pair, false⟩ Sample.root, .enter ⟨0⟩,
    .childBlock ⟨0⟩ ⟨Sample.leaf, false⟩, .enter ⟨1⟩, .exit ⟨0⟩ none]

/-- In the sample the cursor of the pair is over, and the cursor of its child still is its active one. -/
theorem account_of_sample :
    (start Sample.world).Orderly sampleDeeds ∧
    ∃ cursor, ((start Sample.world).afterAll sampleDeeds).session.cursor? ⟨0⟩ = some cursor ∧
      cursor.closed = true ∧ cursor.activeChild = some ⟨1⟩ ∧
      ((start Sample.world).afterAll sampleDeeds).AccountOf ⟨0⟩ cursor := by
  have hds : (start Sample.world).Orderly sampleDeeds :=
    ⟨trivial, trivial, trivial, trivial, ⟨by decide +kernel, by decide +kernel⟩, trivial⟩
  obtain ⟨cursor, hcursor⟩ :
      ∃ cursor, ((start Sample.world).afterAll sampleDeeds).session.cursor? ⟨0⟩ = some cursor :=
    ⟨_, rfl⟩
  refine ⟨hds, cursor, hcursor, ?_, ?_, (account_of_run Sample.world).1 _ hds _ _ hcursor⟩
  · cases hcursor
    rfl
  · cases hcursor
    rfl

end Moment

end TreeShape
