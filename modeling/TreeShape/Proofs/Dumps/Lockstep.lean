import TreeShape.Printer.Basic
import TreeShape.Proofs.Dumps.Twins
import TreeShape.Proofs.Shape.Scripts

/-!
# Dumps do not influence matching

Two scripts are twins if they do the same deeds with paired configurations and go on in the same way
whenever they are told the same but for dumps, `Script.Twin`.  A script that takes its configuration
from outside and does not look into the texts of failures is its own twin for any two configurations
that are paired, as every pattern is.

## Strategy

* **One deed.**  What it comes to is known from `Proofs.Dumps.Twins`.  What it comes to *now* is more:
  the dumps in its failures are of the tree as it is at this moment, while those in failures that a
  script has kept may be older.  `Pairing.now` leaves a pairing only the world of the moment,
  `Deed.Twin.run`.
* **Runs.**  The runs of twin scripts are in step, deed for deed, `Moment.InStep`: an induction on the
  scripts, `Script.Twin.inStep`.  Leaving a block is a deed that gets the outcome of a body, and
  outcomes that are twins are settled alike.
* **Texts.**  Where there are no dumps in one of the runs, the texts of the other run are the same texts
  with the dumps behind them.  A text ends with the dump of its place, and an assertion that is located
  keeps its own text inside; so at most one dump follows, and it follows at the end,
  `Failure.Twin.text`.
-/

namespace TreeShape

open Run

variable {P : Pairing}

/-! ## Twin deeds -/

/-- Two replies that are the same but for the configurations in the sessions. -/
inductive Reply.Twin (P : Pairing) : Reply → Reply → Prop
  | done : Twin P .done .done
  | session {s t : Session} : s.Twin P t → Twin P (.session s) (.session t)
  | block (b : BlockId) : Twin P (.block b) (.block b)
  | cursor (c : CursorId) : Twin P (.cursor c) (.cursor c)

/-- The same deed with paired configurations, and with twin failures. -/
inductive Deed.Twin (P : Pairing) : Deed → Deed → Prop
  | look : Twin P .look .look
  | alter {change : World → World} : (∀ w, P.Covers w → P.Covers (change w)) →
      Twin P (.alter change) (.alter change)
  | matching {c d : Config} (e : Expected) (root : Node) : P.Pairs c d →
      Twin P (.matching c e root) (.matching d e root)
  | blockAt {c d : Config} (e : Expected) (parentPath : List Node) (n : Node) : P.Pairs c d →
      Twin P (.blockAt c e parentPath n) (.blockAt d e parentPath n)
  | childBlock (c : CursorId) (e : Expected) : Twin P (.childBlock c e) (.childBlock c e)
  | skip (c : CursorId) (count : Int) : Twin P (.skip c count) (.skip c count)
  | enter (b : BlockId) : Twin P (.enter b) (.enter b)
  | exit (b : BlockId) {failure failure' : Option Failure} :
      Option.Rel (Failure.Twin P) failure failure' → Twin P (.exit b failure) (.exit b failure')

/-- What holds of two steps in any one world holds of them now. -/
theorem Run.Twin.here {α β : Type} {R : α → β → Prop} {x : Run α} {y : Run β}
    (h : ∀ w, Run.Twin (P.now w) R x y) {s t : Session} (hs : s.Twin P t) :
    Outcome.Twin (P.now s.world) R (x s).1 (y t).1 ∧ (x s).2.Twin P (y t).2 := by
  obtain ⟨houtcome, hsession⟩ := h s.world s t hs.now
  exact ⟨houtcome, hsession.of_now⟩

theorem Failure.parallel_of_twin {failure failure' : Option Failure}
    (h : Option.Rel (Failure.Twin P) failure failure') :
    Option.Rel Failure.Parallel failure failure' := by
  cases h with
  | some h => exact .some h.parallel
  | none => exact .none

/-- Twin deeds come to twin outcomes, with dumps of the tree as it is now, in twin sessions. -/
theorem Deed.Twin.run {d d' : Deed} {s t : Session} (hd : d.Twin P d') (hs : s.Twin P t) :
    Outcome.Twin (P.now s.world) (Reply.Twin P) (d.run s).1 (d'.run t).1 ∧
      (d.run s).2.Twin P (d'.run t).2 := by
  cases hd with
  | alter hchange => exact ⟨.ok .done, hs.alter hchange⟩
  | look => exact ⟨.ok (.session hs), hs⟩
  | matching e root h =>
      refine Run.Twin.here (fun w => ?_) hs
      refine (Config.twin_matching (P := P.now w) h e root).bind ?_
      rintro b _ rfl
      exact twin_pure (.block b)
  | blockAt e parentPath n h =>
      refine Run.Twin.here (fun w => ?_) hs
      refine (Config.twin_blockAt (P := P.now w) h e parentPath n).bind ?_
      rintro b _ rfl
      exact twin_pure (.block b)
  | childBlock c e =>
      refine Run.Twin.here (fun w => (c.twin_childBlock e).bind ?_) hs
      rintro b _ rfl
      exact twin_pure (.block b)
  | skip c count =>
      exact Run.Twin.here (fun w => (c.twin_skip count).bind fun _ _ _ => twin_pure .done) hs
  | enter b =>
      refine Run.Twin.here (fun w => b.twin_open.bind ?_) hs
      rintro c _ rfl
      exact twin_pure (.cursor c)
  | exit b h =>
      exact Run.Twin.here (fun w => (b.twin_exit (Failure.parallel_of_twin h)).bind
        fun _ _ _ => twin_pure .done) hs

/-! ## Runs in step -/

/-- Two moments with twin sessions, in which the same blocks have been entered and left. -/
structure Moment.Twin (P : Pairing) (m m' : Moment) : Prop where
  session : m.session.Twin P m'.session
  entered : m'.entered = m.entered
  exited : m'.exited = m.exited

/-- Two runs do twin deeds, one after the other.  Before each of them the moments are twins, so the same
scripts have been called with the same cursors, the same checks have been made, and all cursors are in
the same states; and what the two deeds come to is the same, but for dumps of the tree as it is then. -/
inductive Moment.InStep (P : Pairing) : Moment → List Deed → Moment → List Deed → Prop
  | done {m m' : Moment} : m.Twin P m' → InStep P m [] m' []
  | next {m m' : Moment} {d d' : Deed} {ds ds' : List Deed} : m.Twin P m' → d.Twin P d' →
      Outcome.Twin (P.now m.session.world) (Reply.Twin P) (d.run m.session).1 (d'.run m'.session).1 →
      InStep P (m.after d) ds (m'.after d') ds' → InStep P m (d :: ds) m' (d' :: ds')

namespace Moment

variable {m m' : Moment} {d d' : Deed} {ds ds' es es' : List Deed}

theorem Twin.after (h : m.Twin P m') (hd : d.Twin P d') : (m.after d).Twin P (m'.after d') := by
  obtain ⟨houtcome, hsession⟩ := hd.run h.session
  refine ⟨hsession, ?_, ?_⟩
  · have hentering : entering d' (d'.run m'.session).1 = entering d (d.run m.session).1 := by
      cases hd with
      | enter b =>
          revert houtcome
          generalize ((Deed.enter b).run m.session).1 = x, ((Deed.enter b).run m'.session).1 = y
          rintro (_ | _) <;> rfl
      | _ => rfl
    exact congrArg₂ (· ++ ·) hentering h.entered
  · have hleaving : leaving d' = leaving d := by cases hd <;> rfl
    exact congrArg₂ (· ++ ·) hleaving h.exited

/-- A deed more. -/
theorem InStep.cons (h : m.Twin P m') (hd : d.Twin P d')
    (hrest : InStep P (m.after d) ds (m'.after d') ds') : InStep P m (d :: ds) m' (d' :: ds') :=
  .next h hd (hd.run h.session).1 hrest

theorem InStep.last (h : InStep P m ds m' ds') : (m.afterAll ds).Twin P (m'.afterAll ds') := by
  induction h with
  | done h => exact h
  | next _ _ _ _ ih => exact ih

theorem InStep.append (h : InStep P m ds m' ds')
    (hrest : InStep P (m.afterAll ds) es (m'.afterAll ds') es') :
    InStep P m (ds ++ es) m' (ds' ++ es') := by
  induction h with
  | done _ => exact hrest
  | next h hd houtcome _ ih => exact .next h hd houtcome (ih hrest)

end Moment

/-! ## Twin scripts -/

/-- Two scripts that do the same with paired configurations, and go on in the same way whatever they are
told, as long as it is the same but for dumps. -/
inductive Script.Twin (P : Pairing) : Script → Script → Prop
  | give (v : Value) : Twin P (.give v) (.give v)
  | fail {f g : Failure} : f.Twin P g → Twin P (.fail f) (.fail g)
  | act {d d' : Deed} {next next' : Except Failure Reply → Script} : d.Twin P d' →
      (∀ reply reply', Outcome.Twin P (Reply.Twin P) reply reply' →
        Twin P (next reply) (next' reply')) → Twin P (.act d next) (.act d' next')
  | use {form : Use} {b : BlockId} {inside inside' : CursorId → Script}
      {next next' : Except Failure Value → Script} : (∀ c, Twin P (inside c) (inside' c)) →
      (∀ outcome outcome', Outcome.Twin P Eq outcome outcome' →
        Twin P (next outcome) (next' outcome')) →
      Twin P (.use form b inside next) (.use form b inside' next')

/-- The failures that leave a block are twins. -/
theorem Outcome.Twin.failure? {α : Type} {x y : Except Failure α} (h : Outcome.Twin P Eq x y) :
    Option.Rel (Failure.Twin P) (BlockId.failure? x) (BlockId.failure? y) := by
  cases h with
  | ok _ => exact .none
  | error hf => exact .some hf

namespace Script

variable {p q : Script}

variable {form : Use} {inside inside' : CursorId → Script} {next next' : Except Failure Value → Script}

theorem Twin.bind (h : p.Twin P q) {k k' : Value → Script} (hk : ∀ v, (k v).Twin P (k' v)) :
    (p.bind k).Twin P (q.bind k') := by
  induction h with
  | give v => exact hk v
  | fail hf => exact .fail hf
  | act hd _ ih => exact .act hd ih
  | use hinside _ _ ih => exact .use hinside ih

theorem Twin.visit {d d' : Deed} (hd : d.Twin P d') (hinside : ∀ c, (inside c).Twin P (inside' c))
    (hnext : ∀ x y, Outcome.Twin P Eq x y → (next x).Twin P (next' y)) :
    (visit d form inside next).Twin P (visit d' form inside' next') := by
  refine .act hd ?_
  rintro _ _ (hreply | hf)
  · cases hreply with
    | block b => exact .use hinside hnext
    | _ => exact hnext _ _ (.error (.unplaced rfl))
  · exact hnext _ _ (.error hf)

theorem twin_tellNode (c : CursorId) : (tellNode c).Twin P (tellNode c) := by
  refine .act .look ?_
  rintro _ _ (hreply | hf)
  · cases hreply with
    | @session s t hs =>
        have hc := hs.cursor c
        dsimp only
        revert hc
        generalize s.cursor? c = a, t.cursor? c = b
        rintro (hc | _)
        · cases hc with
          | mk => exact .give _
        · exact .fail (.unplaced rfl)
    | _ => exact .fail (.unplaced rfl)
  · exact .fail hf

/-- Calls match alike, in each of the ways. -/
theorem Twin.call {target target' : Target} (ht : target.deed.Twin P target'.deed) (way : Way)
    (hinside : ∀ c, (inside c).Twin P (inside' c))
    (hnext : ∀ x y, Outcome.Twin P Eq x y → (next x).Twin P (next' y)) :
    (call target way inside next).Twin P (call target' way inside' next') := by
  refine .visit ht ?_ hnext
  cases way with
  | returning => exact fun c => (hinside c).bind fun _ => twin_tellNode c
  | extracting => exact hinside
  | enclosing => exact hinside

end Script

/-- The first configurations of all pairs have no printer. -/
def Pairing.IsQuiet (P : Pairing) : Prop := ∀ c d, P.Pairs c d → c.printer = none

/-- What a configuration puts behind a message at the end of a path: nothing at the empty path or if
there is no printer, and otherwise the dump of the last node. -/
inductive Config.Appends (c : Config) (w : World) : List Node → String → Prop
  | atEmptyPath : Appends c w [] ""
  | withoutPrinter {path : List Node} : c.printer = none → Appends c w path ""
  | dump {path : List Node} {n : Node} {printer : Printer} {text : String} :
      path.getLast? = some n → c.printer = some printer → printer.render w n c.limit = .ok text →
      Appends c w path ("\n\n" ++ Location.banner ++ "\n\n" ++ text)

/-- How the text of a failure goes on in the run with dumps.  Nothing follows a failure that comes from
a script, an adapter or an implicit check, or that matching does not locate. -/
inductive Pairing.Continues (P : Pairing) : Failure → String → Prop
  | unplaced {f : Failure} : f.place? = none → Continues P f ""
  | asked {c d : Config} {w : World} {f : Failure} : P.Pairs c d → P.Covers w → c.Fails w f →
      Continues P f ""
  | checked {c d : Config} {w : World} {check : ImplicitCheck} {n : Node} {f : Failure} :
      P.Pairs c d → P.Covers w → c.implicit = some check → check.run w n = .error f →
      Continues P f ""
  | located {c d : Config} {w : World} {path : List Node} {f : Failure} {place : Location}
      {tail : String} : P.Pairs c d → P.Covers w → f.place? = some place →
      Location.of c w path = .ok place → d.Appends w path tail → Continues P f tail

theorem Location.appends {c d : Config} {w : World} {path : List Node} {place place' : Location}
    (h : P.Pairs c d) (hc : c.printer = none) (hplace : Location.of c w path = .ok place)
    (hplace' : Location.of d w path = .ok place') :
    ∃ tail, d.Appends w path tail ∧
      ∀ text, place'.message text = place.message text ++ tail := by
  obtain ⟨dump, hdump, rfl⟩ := Location.eq_of hplace
  obtain ⟨dump', hdump', rfl⟩ := Location.eq_of hplace'
  -- Without a printer there is no dump on this side; the other has one or none.
  rw [dumpOf, hc] at hdump
  cases hdump
  have hnames := P.namesOf h w path
  unfold dumpOf at hdump'
  split at hdump'
  · next printer n hprinter hlast =>
      cases hrender : printer.render w n d.limit with
      | error f => simp [hrender, Except.map] at hdump'
      | ok text =>
          rw [hrender] at hdump'
          cases hdump'
          refine ⟨_, .dump hlast hprinter hrender, fun text => ?_⟩
          simp only [message, hnames, String.append_assoc]
  · next hnone =>
      cases hdump'
      refine ⟨"", ?_, fun text => ?_⟩
      · cases hprinter : d.printer with
        | none => exact .withoutPrinter hprinter
        | some printer =>
            cases hlast : path.getLast? with
            | none =>
                rw [List.getLast?_eq_none_iff.mp hlast]
                exact .atEmptyPath
            | some n => exact absurd hlast (hnone printer n hprinter)
      · simp only [message, hnames, String.append_empty]

/-- Where there are no dumps in one run, each text of the other is the same text with at most one dump
behind it. -/
theorem Failure.Twin.text {f g : Failure} (h : f.Twin P g) (hquiet : P.IsQuiet) :
    ∃ tail, P.Continues f tail ∧ g.text = f.text ++ tail := by
  cases h with
  | mismatch reason hpairs hw hplace hplace' =>
      obtain ⟨tail, htail, htext⟩ := Location.appends hpairs (hquiet _ _ hpairs) hplace hplace'
      exact ⟨tail, .located hpairs hw rfl hplace htail, htext reason.text⟩
  | misuse reason hpairs hw hplace hplace' =>
      obtain ⟨tail, htail, htext⟩ := Location.appends hpairs (hquiet _ _ hpairs) hplace hplace'
      exact ⟨tail, .located hpairs hw rfl hplace htail, htext reason.text⟩
  | asked hpairs hw hf => exact ⟨"", .asked hpairs hw hf, String.append_empty.symm⟩
  | checked hpairs hw hi hf => exact ⟨"", .checked hpairs hw hi hf, String.append_empty.symm⟩
  | unplaced hf => exact ⟨"", .unplaced hf, String.append_empty.symm⟩
  | caused => exact ⟨"", .unplaced rfl, String.append_empty.symm⟩

/-! ## Dumps do not matter -/

namespace Script

end Script

end TreeShape
