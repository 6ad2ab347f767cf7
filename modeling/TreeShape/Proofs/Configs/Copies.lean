import TreeShape.Proofs.Configs.Exchange
import TreeShape.Proofs.Sample

/-!
# Copies of configurations

A configuration is made from options, and a copy of it from what it has come to, with changes put over
that.  One would expect the configuration that is made from the options with the changes put over them.
It differs in one point.  A printer that is to be made on the adapter is made once, and the copy takes
over the printer and not how it was chosen.  So the printer of a copy is one on the adapter that was
there when a printer was last mentioned.

## Strategy

* **What copies come to.**  `Config.copyAll_spec` follows a chain of copies and keeps two adapters: the
  current one, and the one on which the printer was settled, `settledOn`.  The induction is on the
  chain; a copy moves the second adapter to the first just if its changes mention a printer.
* **When that makes no difference.**  The printer is made by the same choice on two adapters.  Both
  configurations do the same just if the choice prints the same on both, `alike_resolve_iff`.  If they
  do not, there is a node whose dump tells them apart; if they do, they differ at most in which objects
  the printers are, and what a configuration is asked by matching is the same, `Alike.dumpOf_eq`.
* **For all scripts.**  `Script.run_exchange` carries this over to whatever is done with the
  configurations: `Alike.swaps`.
-/

namespace TreeShape

/-! ## Configurations that do the same -/

/-- Two configurations that agree in all but, at most, which objects their printers are. -/
structure Config.Alike (c d : Config) : Prop where
  adapter : d.adapter = c.adapter
  limit : d.limit = c.limit
  implicit : d.implicit = c.implicit
  prints : d.printer.map (·.render) = c.printer.map (·.render)

namespace Config.Alike

variable {c d : Config}

theorem dumpOf_eq (h : c.Alike d) (w : World) (nodes : List Node) :
    Location.dumpOf d w nodes = Location.dumpOf c w nodes := by
  have hprints := h.prints
  unfold Location.dumpOf
  rw [h.limit]
  cases hc : c.printer with
  | none =>
      rw [hc, Option.map_none, Option.map_eq_none_iff] at hprints
      rw [hprints]
  | some p =>
      rw [hc, Option.map_some, Option.map_eq_some_iff] at hprints
      obtain ⟨q, hq, hrender⟩ := hprints
      rw [hq]
      cases nodes.getLast? with
      | none => rfl
      | some n => simp only [hrender]

theorem place_eq (h : c.Alike d) (w : World) (nodes : List Node) :
    Location.of d w nodes = Location.of c w nodes := by
  have hnames : Location.namesOf d w nodes = Location.namesOf c w nodes := by
    rw [Location.namesOf, Location.namesOf, Config.view, Config.view, h.adapter]
  rw [Location.of, Location.of, h.dumpOf_eq, hnames]

theorem dump_eq (h : c.Alike d) (given : Option Printer) (number number' : Nat) (w : World) (n : Node)
    (limit : DumpLimit) :
    (Matcher.make d given number').dump w n limit = (Matcher.make c given number).dump w n limit := by
  have hprints := h.prints
  unfold Matcher.dump Matcher.make
  cases given with
  | some p => rfl
  | none =>
      cases hc : c.printer with
      | none =>
          rw [hc, Option.map_none, Option.map_eq_none_iff] at hprints
          rw [hprints, h.adapter]
          rfl
      | some p =>
          rw [hc, Option.map_some, Option.map_eq_some_iff] at hprints
          obtain ⟨q, hq, hrender⟩ := hprints
          rw [hq]
          exact congrFun (congrFun (congrFun hrender w) n) limit

open Classical in
/-- Exchanges two configurations that do the same. -/
noncomputable def exchange (h : c.Alike d) : Exchange where
  swap e := if e = c then d else if e = d then c else e
  swap_swap e := by
    by_cases hc : e = c
    · subst hc
      by_cases hd : d = e <;> simp [hd]
    · by_cases hd : e = d <;> simp [hc, hd]
  adapter e := by
    split
    · next he => rw [he, h.adapter]
    · split
      · next he => rw [he, h.adapter]
      · rfl
  implicit e := by
    split
    · next he => rw [he, h.implicit]
    · split
      · next he => rw [he, h.implicit]
      · rfl
  place e w nodes := by
    split
    · next he => rw [he, h.place_eq]
    · split
      · next he => rw [he, h.place_eq]
      · rfl

theorem exchange_left (h : c.Alike d) : h.exchange.swap c = d := if_pos rfl

theorem exchange_right (h : c.Alike d) : h.exchange.swap d = c := by
  have hback := h.exchange.swap_swap c
  rwa [h.exchange_left] at hback

theorem exchange_of_ne (h : c.Alike d) {e : Config} (hc : e ≠ c) (hd : e ≠ d) :
    h.exchange.swap e = e := (if_neg hc).trans (if_neg hd)

end Config.Alike

/-! ## Options and changes -/

/-- Puts later changes over earlier ones. -/
def Changes.override (x y : Changes) : Changes where
  adapter := y.adapter.or x.adapter
  printer := y.printer.or x.printer
  limit := y.limit.or x.limit
  implicit := y.implicit.or x.implicit

/-- Puts changes over each other, the last ones on top. -/
def Changes.merged : List Changes → Changes
  | [] => {}
  | x :: rest => x.override (merged rest)

namespace Options

/-- The options with the printer's choice spelled out. -/
def explicit (o : Options) : Options := { o with printer := some o.choice, withoutDumps := false }

theorem choice_override (o : Options) (x : Changes) :
    (o.explicit.override x).choice = x.printer.getD o.choice := by
  cases h : x.printer <;> simp [choice, override, explicit, h]

end Options

/-- What a printer chosen in some way prints on an adapter, if there is one. -/
def PrinterChoice.prints (choice : PrinterChoice) (a : Adapter) :
    Option (World → Node → DumpLimit → Except Failure String) :=
  (choice.resolve 0 a).map (·.render)

theorem PrinterChoice.map_render_resolve (choice : PrinterChoice) (number : Nat) (a : Adapter) :
    (choice.resolve number a).map (·.render) = choice.prints a := by
  cases choice <;> rfl

namespace Config

variable {o : Options} {c : Config} {number : Nat}

theorem make_of_adapter {a : Adapter} (hadapter : o.adapter = .ok a) (hdumps : o.withoutDumps = false) :
    make o number = .ok ⟨a, o.choice.resolve number a, o.limit, o.implicit⟩ := by
  rw [make, hdumps, hadapter]
  rfl

/-- A configuration has its printer made on its own adapter, when it is made. -/
theorem eq_of_make (h : make o number = .ok c) :
    o.adapter = .ok c.adapter ∧ c = ⟨c.adapter, o.choice.resolve number c.adapter, o.limit, o.implicit⟩ := by
  unfold make at h
  split at h
  · cases h
  · split at h
    · cases h
    · next a hadapter =>
        cases h
        exact ⟨hadapter, rfl⟩

theorem make_override {a : Adapter} (hadapter : o.adapter = .ok a) (x : Changes) :
    make (o.explicit.override x) number =
      .ok ⟨x.adapter.getD a, (x.printer.getD o.choice).resolve number (x.adapter.getD a),
        x.limit.getD o.limit, x.implicit.getD o.implicit⟩ := by
  have hadapter' : (o.explicit.override x).adapter = .ok (x.adapter.getD a) := by
    show (x.adapter.map Except.ok).getD o.adapter = _
    rw [hadapter]
    cases x.adapter <;> rfl
  rw [make_of_adapter hadapter' rfl, Options.choice_override]
  rfl

/-- Spelling out the choice of the printer changes nothing, unless there is to be none. -/
theorem make_explicit_override (h : o.withoutDumps = false) (x : Changes) (number : Nat) :
    make (o.explicit.override x) number = make (o.override x) number := by
  have hchoice : (o.override x).choice = x.printer.getD o.choice := by
    cases hx : x.printer <;> simp [Options.choice, Options.override, hx, h]
  unfold make
  rw [Options.choice_override, hchoice]
  simp only [Options.override, Options.explicit, h, Bool.false_and]

/-- A copy has the old printer, unless the changes mention one. -/
theorem withOptions_eq (c : Config) (x : Changes) (number : Nat) :
    c.withOptions x number =
      .ok ⟨x.adapter.getD c.adapter,
        (x.printer.getD (.fixed c.printer)).resolve number (x.adapter.getD c.adapter),
        x.limit.getD c.limit, x.implicit.getD c.implicit⟩ :=
  make_override (o := c.options) rfl x

/-! ## Chains of copies -/

/-- Copies one after the other, each with its changes and the number for a printer that is made. -/
def copyAll (c : Config) : List (Changes × Nat) → Except Failure Config
  | [] => .ok c
  | (x, number) :: rest => do (← c.withOptions x number).copyAll rest

/-- The adapter that was there when the printer was mentioned last, in a chain of copies that begins with
one adapter and a printer settled on another. -/
def settledOn (settled current : Adapter) : List Changes → Adapter
  | [] => settled
  | x :: rest =>
    let next := x.adapter.getD current
    settledOn (if x.printer.isSome then next else settled) next rest

/-- The last of a chain of copies has all changes, with the last ones on top, and a printer chosen as the
changes say.  But this is one on the adapter that was there when a printer was mentioned last. -/
theorem copyAll_spec {choice : PrinterChoice} {settled : Adapter}
    (hprinter : c.printer = choice.resolve number settled) (steps : List (Changes × Nat)) :
    ∃ number', c.copyAll steps =
      let all := Changes.merged (steps.map (·.1))
      .ok ⟨all.adapter.getD c.adapter,
        (all.printer.getD choice).resolve number' (settledOn settled c.adapter (steps.map (·.1))),
        all.limit.getD c.limit, all.implicit.getD c.implicit⟩ := by
  induction steps generalizing c choice number settled with
  | nil =>
      obtain ⟨adapter, printer, limit, implicit⟩ := c
      obtain rfl : printer = choice.resolve number settled := hprinter
      exact ⟨number, rfl⟩
  | cons step rest ih =>
      obtain ⟨x, k⟩ := step
      simp only [copyAll, withOptions_eq, List.map_cons, Changes.merged, Changes.override, Option.getD_or]
      -- What is copied next has the printer that the copies have so far, or the one mentioned just now.
      cases hx : x.printer with
      | none =>
          obtain ⟨number', hrest⟩ := ih (c := ⟨x.adapter.getD c.adapter, c.printer, x.limit.getD c.limit,
            x.implicit.getD c.implicit⟩) hprinter
          refine ⟨number', hrest.trans ?_⟩
          rw [settledOn, hx]
          rfl
      | some mentioned =>
          obtain ⟨number', hrest⟩ := ih (c := ⟨x.adapter.getD c.adapter,
            mentioned.resolve k (x.adapter.getD c.adapter), x.limit.getD c.limit,
            x.implicit.getD c.implicit⟩) rfl
          refine ⟨number', hrest.trans ?_⟩
          rw [settledOn, hx]
          rfl

/-- Configurations whose printers are chosen alike do the same just if the choice prints the same on the two
adapters. -/
theorem alike_resolve_iff {choice : PrinterChoice} {a b : Adapter} {number number' : Nat}
    {limit : DumpLimit} {implicit : Option ImplicitCheck} :
    Alike ⟨b, choice.resolve number a, limit, implicit⟩ ⟨b, choice.resolve number' b, limit, implicit⟩ ↔
      choice.prints a = choice.prints b := by
  rw [← choice.map_render_resolve number a, ← choice.map_render_resolve number' b]
  exact ⟨fun h => h.prints.symm, fun h => ⟨rfl, rfl, rfl, h.symm⟩⟩

/-- What copies of a configuration come to, compared with what is made at once from its options with the
changes put over them. -/
structure CopiesOf (o : Options) (number : Nat) (c : Config) : Prop where
  /-- What is made has its printer on its own adapter. -/
  printer : c.printer = o.choice.resolve number c.adapter
  /-- Spelling the options out changes nothing for what is made with changes put over them. -/
  explicit : o.withoutDumps = false → ∀ x k, make (o.explicit.override x) k = make (o.override x) k
  /-- A chain of copies comes to what is made at once with all changes, but for the printer.  That of the last
  copy is the one that was made, or given, when a printer was mentioned last.  So the last copy does the same
  just if the printer prints the same on the adapter of then as on the adapter of now. -/
  chain : ∀ (steps : List (Changes × Nat)) k,
    let all := Changes.merged (steps.map (·.1))
    let choice := all.printer.getD o.choice
    ∃ copy built, c.copyAll steps = .ok copy ∧ make (o.explicit.override all) k = .ok built ∧
      { copy with printer := none } = { built with printer := none } ∧
      (copy.Alike built ↔ choice.prints (settledOn c.adapter c.adapter (steps.map (·.1))) =
        choice.prints built.adapter)
  /-- One copy does the same just if the changes mention a printer, or the choice in the options prints the
  same on the old adapter and on the new one. -/
  one : ∀ x k k', ∃ copy built, c.withOptions x k = .ok copy ∧
    make (o.explicit.override x) k' = .ok built ∧
    (copy.Alike built ↔ x.printer.isSome ∨ o.choice.prints c.adapter = o.choice.prints built.adapter)
  /-- Two copies do the same as one just if the first changes mention no printer, or the second ones mention
  another, or the one mentioned prints the same on either adapter. -/
  two : ∀ x y k k' k'', ∃ first copy built, c.withOptions x k = .ok first ∧
    first.withOptions y k' = .ok copy ∧ c.withOptions (x.override y) k'' = .ok built ∧
    (copy.Alike built ↔ ∀ choice, x.printer = some choice → y.printer = none →
      choice.prints first.adapter = choice.prints built.adapter)

/-- A chain of copies against the configuration that is made at once. -/
theorem copyAll_alike_iff (h : make o number = .ok c) (steps : List (Changes × Nat)) (number' : Nat) :
    let all := Changes.merged (steps.map (·.1))
    let choice := all.printer.getD o.choice
    ∃ copy built, c.copyAll steps = .ok copy ∧ make (o.explicit.override all) number' = .ok built ∧
      { copy with printer := none } = { built with printer := none } ∧
      (copy.Alike built ↔ choice.prints (settledOn c.adapter c.adapter (steps.map (·.1))) =
        choice.prints built.adapter) := by
  intro all choice
  obtain ⟨hadapter, hc⟩ := eq_of_make h
  have hlimit : c.limit = o.limit := by rw [hc]
  have himplicit : c.implicit = o.implicit := by rw [hc]
  obtain ⟨k, hcopy⟩ := copyAll_spec (congrArg Config.printer hc) steps
  rw [hlimit, himplicit] at hcopy
  exact ⟨_, _, hcopy, make_override hadapter all, rfl, alike_resolve_iff⟩

/-- One copy against the configuration that is made at once. -/
theorem withOptions_alike_iff (h : make o number = .ok c) (x : Changes) (k k' : Nat) :
    ∃ copy built, c.withOptions x k = .ok copy ∧ make (o.explicit.override x) k' = .ok built ∧
      (copy.Alike built ↔
        x.printer.isSome ∨ o.choice.prints c.adapter = o.choice.prints built.adapter) := by
  obtain ⟨hadapter, hc⟩ := eq_of_make h
  have hprinter : c.printer = o.choice.resolve number c.adapter := congrArg Config.printer hc
  have hlimit : c.limit = o.limit := congrArg Config.limit hc
  have himplicit : c.implicit = o.implicit := congrArg Config.implicit hc
  refine ⟨_, _, withOptions_eq c x k, make_override hadapter x, ?_⟩
  rw [hlimit, himplicit]
  cases hx : x.printer with
  | none =>
      show Alike ⟨_, c.printer, _, _⟩ ⟨_, o.choice.resolve k' _, _, _⟩ ↔ _
      rw [hprinter, alike_resolve_iff]
      exact (or_iff_right Bool.false_ne_true).symm
  | some mentioned => exact ⟨fun _ => .inl rfl, fun _ => alike_resolve_iff.mpr rfl⟩

/-- A copy of a copy against one copy with the changes of both. -/
theorem withOptions_twice_alike_iff (c : Config) (x y : Changes) (k k' k'' : Nat) :
    ∃ first copy built, c.withOptions x k = .ok first ∧ first.withOptions y k' = .ok copy ∧
      c.withOptions (x.override y) k'' = .ok built ∧
      (copy.Alike built ↔ ∀ choice, x.printer = some choice → y.printer = none →
        choice.prints first.adapter = choice.prints built.adapter) := by
  refine ⟨_, _, _, withOptions_eq c x k, withOptions_eq _ y k', withOptions_eq c (x.override y) k'', ?_⟩
  simp only [Changes.override, Option.getD_or]
  cases hy : y.printer with
  | some mentioned => exact ⟨fun _ => nofun, fun _ => alike_resolve_iff.mpr rfl⟩
  | none =>
      cases hx : x.printer with
      | none => exact ⟨fun _ => nofun, fun _ => ⟨rfl, rfl, rfl, rfl⟩⟩
      | some mentioned =>
          -- The copy of the copy has the printer made in between, on the adapter in between.
          show Alike ⟨_, mentioned.resolve k _, _, _⟩ ⟨_, mentioned.resolve k'' _, _, _⟩ ↔ _
          rw [alike_resolve_iff]
          constructor
          · rintro hprints choice hchoice -
            obtain rfl := Option.some.inj hchoice
            exact hprints
          · exact fun hprints => hprints mentioned rfl rfl

/-! ## Copies and what they are copies of -/

/-- An exchange puts two configurations in each other's place and leaves all others alone.  Nothing changes in
what scripts do, what they are told, what they return and what they fail with, the texts of failures and their
dumps included, nor where dumps are asked for. -/
structure Swaps (e : Exchange) (a b : Config) : Prop where
  left : e.swap a = b
  right : e.swap b = a
  others : ∀ d, d ≠ a → d ≠ b → e.swap d = d
  runs : ∀ (p : Script) s, (p.exchange e).run (s.exchange e) = ((p.run s).1, (p.run s).2.exchange e)
  dumps : ∀ given k k' w n limit,
    (Matcher.make b given k').dump w n limit = (Matcher.make a given k).dump w n limit

theorem Alike.swaps {a b : Config} (h : a.Alike b) : Swaps h.exchange a b :=
  ⟨h.exchange_left, h.exchange_right, fun _ => h.exchange_of_ne, Script.run_exchange h.exchange, h.dump_eq⟩

/-- Copies come to what is made at once from the options with the changes put over them, but for the printer,
which may be one on an older adapter.  Where that prints the same, and only there, the two do the same, and
configurations that do the same can be exchanged in every script. -/
theorem copies_agree_iff (h : make o number = .ok c) :
    CopiesOf o number c ∧ ∀ a b : Config, a.Alike b → ∃ e : Exchange, Swaps e a b := by
  obtain ⟨-, hc⟩ := eq_of_make h
  exact ⟨⟨congrArg Config.printer hc, make_explicit_override, copyAll_alike_iff h, withOptions_alike_iff h,
    c.withOptions_twice_alike_iff⟩, fun a b hab => ⟨hab.exchange, hab.swaps⟩⟩

end Config

/-! ## Boxes seen in two ways -/

namespace Sample

/-- Options that leave it to the configuration which printer to make. -/
def usualOptions : Options := { adapter := .ok adapter }

/-- Goes into the box in the middle and fails there. -/
def failInside (c : Config) : Script :=
  .visit (.matching c ⟨box, false⟩ middle) .called
    (fun _ => .fail (.raised .assertion "boom" none none)) fun
    | .ok v => .give v
    | .error f => .fail f

theorem exchange_failInside (x : Exchange) (c : Config) :
    (failInside c).exchange x = failInside (x.swap c) := by
  rw [failInside, Script.exchange_visit]
  refine congrArg _ (funext fun outcome => ?_)
  cases outcome <;> rfl

/-- A copy with another limit does what is made at once with it: a script that fails does so with the same
failure. -/
theorem copies_agree_usual :
    ∃ c copy built, Config.make usualOptions 0 = .ok c ∧
      c.withOptions { limit := some (some 1) } 1 = .ok copy ∧
      Config.make (usualOptions.explicit.override { limit := some (some 1) }) 2 = .ok built ∧
      copy.Alike built ∧
      ((failInside built).run boxSession).1 = ((failInside copy).run boxSession).1 := by
  have hmake : Config.make usualOptions 0 = .ok ⟨adapter, some (.usual 0 adapter), none, none⟩ := rfl
  obtain ⟨hcopies, hexchange⟩ := Config.copies_agree_iff hmake
  obtain ⟨copy, built, hcopy, hbuilt, hiff⟩ := hcopies.one { limit := some (some 1) } 1 2
  have hadapter : built.adapter = adapter := by
    cases hbuilt
    rfl
  have halike : copy.Alike built := hiff.mpr (.inr (by rw [hadapter]))
  obtain ⟨e, hswaps⟩ := hexchange copy built halike
  refine ⟨_, copy, built, hmake, hcopy, hbuilt, halike, ?_⟩
  have hsession : boxSession.exchange e = boxSession := Session.exchange_fresh e boxes
  have hsame := hswaps.runs (failInside copy) boxSession
  rw [exchange_failInside, hswaps.left, hsession] at hsame
  rw [hsame]

/-- A copy that sees the boxes by their parts still dumps them as they were seen before, where what is made
at once dumps the box inside. -/
theorem copy_dumps_as_before :
    ∃ c copy built, Config.make usualOptions 0 = .ok c ∧
      c.withOptions { adapter := some boxConfig.adapter } 1 = .ok copy ∧
      Config.make (usualOptions.override { adapter := some boxConfig.adapter }) 2 = .ok built ∧
      (∃ f, ((failInside copy).run boxSession).1 = .error f ∧
        f.text = "At /Box: boom\n\nThe error occurred in this subtree:\n\n" ++
          "with match_node(node, Box) as it:\n    pass") ∧
      (∃ f, ((failInside built).run boxSession).1 = .error f ∧
        f.text = "At /Box: boom\n\nThe error occurred in this subtree:\n\n" ++
          "with match_node(node, Box) as it:\n    it.child(Box)") ∧
      ¬ copy.Alike built := by
  refine ⟨_, _, _, rfl, rfl, rfl, ⟨_, rfl, rfl⟩, ⟨_, rfl, rfl⟩, fun halike => ?_⟩
  have hsame : (Except.ok "with match_node(node, Box) as it:\n    it.child(Box)" : Except Failure String) =
      .ok "with match_node(node, Box) as it:\n    pass" :=
    congrFun (congrFun (congrFun (Option.some.inj halike.prints) boxes) middle) none
  exact absurd (Except.ok.inj hsame) (by decide)

end Sample

end TreeShape
