import Mathlib.Algebra.Order.Ring.Int
import TreeShape.Proofs.Attributes.Spelling
import TreeShape.Value.Equality
import TreeShape.Value.Literal

/-!
# The literals of values

What is said of the literal of a value is what its operand is read as, `Value.reads_literal`: the
literals of texts and numbers start with a quote, a digit or a minus and stand on one line, so they are
read by whatever reads such literals; those of members of enumerations and of types are paths.

That they stand on one line is where the writing of texts and numbers is looked at.  In a quoted text no
line feed is left, as it is escaped like all characters that cannot be printed.  A float is written by
its shortest decimal, as a numeral with a point or a power (`Layout.isNumeral_write`), of which nothing
is needed but its characters.

A float that is read back need only be equal to the one that was written.  Equal floats are equal to the
same values, so this makes no difference to comparisons, `Value.agrees_of_echoes`.
-/

namespace TreeShape

open Replay Audit

/-! ## Equal floats -/

namespace Binary64

/-- Two scaled numbers are the same if they are at a scale that is no coarser than either's. -/
theorem sameScaled_iff {a b e f m : Int} (he : m ≤ e) (hf : m ≤ f) :
    sameScaled a e b f = true ↔ a * 2 ^ (e - m).toNat = b * 2 ^ (f - m).toNat := by
  have hpower : ∀ n : Nat, ((power 2 n : Nat) : Int) = 2 ^ n := by
    intro n
    exact Int.natCast_pow 2 n
  have hleft : (e - m).toNat = (e - f).toNat + (min e f - m).toNat := by omega
  have hright : (f - m).toNat = (f - e).toNat + (min e f - m).toNat := by omega
  have hne : (2 : Int) ^ (min e f - m).toNat ≠ 0 := pow_ne_zero _ (by decide)
  rw [sameScaled, beq_iff_eq, hpower, hpower, hleft, hright, pow_add, pow_add, ← mul_assoc,
    ← mul_assoc, mul_left_inj' hne]

variable {x y : Binary64}

/-- Equal floats are equal to the same scaled numbers. -/
private theorem sameScaled_congr {a b e f : Int} (h : sameScaled a e b f = true) (c g : Int) :
    sameScaled c g a e = sameScaled c g b f := by
  have he : min g (min e f) ≤ e := by omega
  have hf : min g (min e f) ≤ f := by omega
  have hg : min g (min e f) ≤ g := by omega
  rw [Bool.eq_iff_iff, sameScaled_iff hg he, sameScaled_iff hg hf, (sameScaled_iff he hf).mp h]

theorem agrees_congr (h : x.agrees y = true) (z : Binary64) : z.agrees x = z.agrees y := by
  cases x <;> cases y <;> simp only [agrees, beq_iff_eq, Bool.false_eq_true] at h
  · rw [h]
  · cases z <;> simp only [agrees]
    exact sameScaled_congr h _ _

theorem agreesWithInt_congr (h : x.agrees y = true) (i : Int) :
    x.agreesWithInt i = y.agreesWithInt i := by
  have hswap : ∀ {a e b f : Int}, sameScaled a e b f = sameScaled b f a e := by
    intro a e b f
    rw [Bool.eq_iff_iff, sameScaled, sameScaled, beq_iff_eq, beq_iff_eq]
    exact eq_comm
  cases x <;> cases y <;> simp only [agrees, beq_iff_eq, Bool.false_eq_true] at h
  · rfl
  · rw [agreesWithInt, agreesWithInt, hswap, hswap (b := i)]
    exact sameScaled_congr h _ _

end Binary64

namespace Value

/-- A value that was written and read back: the value itself, or a float that is equal to it. -/
inductive Echoes : Value → Value → Prop
  | same (v : Value) : Echoes v v
  | float {x y : Binary64} : x.agrees y = true → Echoes (.float x) (.float y)

variable {v w : Value}

/-- Only floats may come back as another value. -/
theorem Echoes.eq_of_isIdentified (h : v.Echoes w) (hw : w.isIdentified = true) : v = w := by
  cases h with
  | same => rfl
  | float _ => cases hw

private theorem sameAtom_float {x y : Binary64} (h : x.agrees y = true) (u : Value) :
    u.sameAtom (.float x) = u.sameAtom (.float y) := by
  have hnumber : u.sameNumber? (.float x) = u.sameNumber? (.float y) := by
    cases u <;> simp [sameNumber?, asInt?, Binary64.agrees_congr h, Binary64.agreesWithInt_congr h]
  cases u <;> simp only [sameAtom, hnumber]

/-- What is read back is equal to the same values. -/
theorem agrees_of_echoes {world : World} (h : v.Echoes w) (u : Value) :
    u.agrees world v = u.agrees world w := by
  cases h with
  | same => rfl
  | float h => cases u <;> simp [agrees, equalsEverything, asObject?, plain, sameAtom_float h]

end Value

/-! ## The texts of literals -/

namespace Audit

/-- A text on one line that starts as the literals of texts and numbers do. -/
structure IsLiteralText (cs : List Char) : Prop where
  starts : cs.head?.any startsLiteral = true
  whole : '\n' ∉ cs

end Audit

namespace Text

private theorem newline_not_mem_hexDigits (width code : Nat) : '\n' ∉ hexDigits width code := by
  have hdigit : ∀ n < 16, Nat.digitChar n ≠ '\n' := by decide
  have hdigits : '\n' ∉ Nat.toDigits 16 code := by
    induction code using Nat.strong_induction_on with
    | _ code ih =>
        rw [Nat.toDigits_eq_if (by decide)]
        split
        · next hlt =>
            rw [List.mem_singleton]
            exact (hdigit code hlt).symm
        · next hle =>
            rw [List.mem_append, List.mem_singleton, not_or]
            exact ⟨ih _ (by omega), (hdigit _ (by omega)).symm⟩
  rw [hexDigits, List.mem_append, List.mem_replicate, not_or]
  exact ⟨fun h => absurd h.2 (by decide), hdigits⟩

private theorem newline_not_mem_escape {quote : Char} (hquote : quote ≠ '\n') (c : Char) :
    '\n' ∉ escape quote c := by
  unfold escape
  split
  · next h =>
      simp only [Bool.or_eq_true, decide_eq_true_eq] at h
      rcases h with rfl | rfl
      · decide
      · simpa using hquote.symm
  · split
    · decide
    · next hnewline =>
        repeat' split
        · decide
        · decide
        · simpa using Ne.symm hnewline
        · simp only [escapeCode]
          split_ifs <;> simp [newline_not_mem_hexDigits]

/-- A quoted text stands on one line. -/
theorem isLiteralText_quoted (text : String) : IsLiteralText (quoted text).toList := by
  have hquote : quoteFor text.toList = '"' ∨ quoteFor text.toList = '\'' := by
    unfold quoteFor
    split
    · exact .inl rfl
    · exact .inr rfl
  have hne : quoteFor text.toList ≠ '\n' := by
    rcases hquote with hquote | hquote <;> rw [hquote] <;> decide
  rw [quoted, between, String.toList_ofList]
  constructor
  · rcases hquote with hquote | hquote <;> rw [hquote] <;> rfl
  · rw [List.mem_cons, List.mem_append, List.mem_flatMap, List.mem_singleton, not_or, not_or]
    exact ⟨hne.symm, fun ⟨c, _, hc⟩ => newline_not_mem_escape hne c hc, hne.symm⟩

end Text

namespace Audit

/-- The characters behind the first digit of a numeral. -/
def IsNumeralChar (c : Char) : Prop := c.isDigit = true ∨ c ∈ ['.', 'e', '+', '-']

/-- A digit, and behind it more digits, a point and a power. -/
def IsNumeral (cs : List Char) : Prop :=
  ∃ first rest, cs = first :: rest ∧ first.isDigit = true ∧ ∀ c ∈ rest, IsNumeralChar c

theorem isNumeral_toDigits (n : Nat) : IsNumeral (Nat.toDigits 10 n) := by
  have hall : ∀ c ∈ Nat.toDigits 10 n, c.isDigit = true :=
    fun c hc => Nat.isDigit_of_mem_toDigits (by decide) (by decide) hc
  cases hlist : Nat.toDigits 10 n with
  | nil => exact absurd hlist Nat.toDigits_ne_nil
  | cons first rest =>
      rw [hlist, List.forall_mem_cons] at hall
      exact ⟨first, rest, rfl, hall.1, fun c hc => .inl (hall.2 c hc)⟩

theorem forall_mem_zeros (count : Nat) : ∀ c ∈ List.replicate count '0', IsNumeralChar c := by
  intro c hc
  rw [List.eq_of_mem_replicate hc]
  exact .inl rfl

namespace IsNumeral

variable {cs ds : List Char}

theorem forall_mem (h : IsNumeral cs) : ∀ c ∈ cs, IsNumeralChar c := by
  obtain ⟨first, rest, rfl, hfirst, hrest⟩ := h
  exact List.forall_mem_cons.mpr ⟨.inl hfirst, hrest⟩

theorem append (h : IsNumeral cs) (hds : ∀ c ∈ ds, IsNumeralChar c) : IsNumeral (cs ++ ds) := by
  obtain ⟨first, rest, rfl, hfirst, hrest⟩ := h
  exact ⟨first, rest ++ ds, rfl, hfirst, List.forall_mem_append.mpr ⟨hrest, hds⟩⟩

/-- The front of a numeral is one, too. -/
theorem take_succ (h : IsNumeral cs) (count : Nat) : IsNumeral (cs.take (count + 1)) := by
  obtain ⟨first, rest, rfl, hfirst, hrest⟩ := h
  exact ⟨first, rest.take count, List.take_succ_cons, hfirst,
    fun c hc => hrest c (List.mem_of_mem_take hc)⟩

end IsNumeral

/-- A numeral stands on one line, with a minus in front of it or without. -/
theorem IsNumeral.isLiteralText {cs : List Char} (h : IsNumeral cs) (negative : Bool) :
    IsLiteralText (if negative then '-' :: cs else cs) := by
  have hwhole : '\n' ∉ cs := by
    intro hmem
    rcases h.forall_mem _ hmem with h | h <;> exact absurd h (by decide)
  obtain ⟨first, rest, rfl, hfirst, -⟩ := h
  cases negative with
  | true => exact ⟨rfl, by simpa using hwhole⟩
  | false => exact ⟨by simp [startsLiteral, hfirst], hwhole⟩

end Audit

/-- The numeral of a whole number stands on one line. -/
theorem isLiteralText_int (i : Int) : IsLiteralText (toString i).toList := by
  rw [Int.toString_eq_repr, Int.repr_eq_if]
  have hminus : "-".toList = ['-'] := by decide
  split
  · rw [Nat.toList_repr]
    exact (isNumeral_toDigits _).isLiteralText false
  · rw [String.toList_append, hminus, Nat.toList_repr]
    exact (isNumeral_toDigits _).isLiteralText true

theorem Decimal.Layout.forall_mem_exponentText (l : Layout) (e : Int) :
    ∀ c ∈ l.exponentText e, IsNumeralChar c := by
  rw [exponentText, padLeft, List.forall_mem_cons, List.forall_mem_append]
  refine ⟨?_, forall_mem_zeros _, (isNumeral_toDigits _).forall_mem⟩
  split <;> exact .inr (by decide)

/-- A decimal is written as a numeral. -/
theorem Decimal.Layout.isNumeral_write (l : Layout) (s : Scientific) : IsNumeral (l.write s) := by
  have hdigits := isNumeral_toDigits s.digits
  have hback : ∀ count, ∀ c ∈ (Nat.toDigits 10 s.digits).drop count, IsNumeralChar c :=
    fun count c hc => hdigits.forall_mem c (List.mem_of_mem_drop hc)
  have hpoint : IsNumeralChar '.' := .inr (by decide)
  simp only [write]
  split
  · split
    · -- The point stands in front of all digits.
      refine ⟨'0', _, rfl, rfl, List.forall_mem_cons.mpr ⟨hpoint, ?_⟩⟩
      exact List.forall_mem_append.mpr ⟨forall_mem_zeros _, hdigits.forall_mem⟩
    · -- The point stands between digits, or behind them.
      refine ((hdigits.take_succ _).append (forall_mem_zeros _)).append
        (List.forall_mem_cons.mpr ⟨hpoint, ?_⟩)
      split
      · exact forall_mem_zeros 1
      · exact hback _
  · -- There is a power behind the digits.
    refine ((hdigits.take_succ 0).append ?_).append
      (List.forall_mem_cons.mpr ⟨.inr (by decide), l.forall_mem_exponentText _⟩)
    split
    · exact nofun
    · exact List.forall_mem_cons.mpr ⟨hpoint, hback 1⟩

/-- The literal of a finite float stands on one line. -/
theorem isLiteralText_finite (negative : Bool) (mantissa : Nat) (exponent : Int) :
    IsLiteralText (Binary64.finite negative mantissa exponent).text.toList := by
  have hdigits : IsNumeral (if mantissa = 0 then ['0', '.', '0']
      else floatLayout.write (Decimal.shortest mantissa exponent)) := by
    split
    · exact ⟨'0', ['.', '0'], rfl, rfl, by simp [IsNumeralChar]⟩
    · exact floatLayout.isNumeral_write _
  rw [Binary64.text, String.toList_ofList]
  exact hdigits.isLiteralText negative

/-! ## What literals are read as -/

/-- What a name denotes in an enumeration. -/
def Hierarchy.memberOf? (h : Hierarchy) (t : NodeType) (name : String) : Option Value :=
  (h.info t).members.bind (·.lookup name)

namespace Value

/-- The value is no member of an enumeration, or a member of a plain one, where its name denotes it. -/
def IsTellable (h : Hierarchy) : Value → Prop
  | .member kind family name content => kind = .plain ∧ isIdentifier name = true ∧
      h.memberOf? family name = some (.member kind family name content)
  | _ => True

/-- The type that the literal of a value mentions. -/
def mentioned? : Value → Option NodeType
  | .member _ family _ _ => some family
  | .type t => some t
  | _ => none

/-- The literals of texts, whole numbers and finite floats are read as what they were written for. -/
def ReadsBack (literals : String → Option Value) (h : Hierarchy) (v : Value) : Prop :=
  match v with
  | .text _ | .int _ | .float (.finite _ _ _) =>
    ∃ v', literals (v.display h) = some v' ∧ v'.Echoes v
  | _ => True

end Value

namespace Audit

/-- What an operand is meant to stand for. -/
inductive Operand.Means (h : Hierarchy) : Operand → Value → Prop
  | literal {v v' : Value} : v'.Echoes v → Means h (.literal v') v
  | infinite (negative : Bool) : Means h (.infinite negative) (.float (.infinite negative))
  | member {family : NodeType} {name : String} {content : Value} :
      h.memberOf? family name = some (.member .plain family name content) →
      Means h (.path ⟨h.qualifiedName family, [name], none⟩) (.member .plain family name content)
  | type (t : NodeType) : Means h (.path ⟨h.qualifiedName t, [], none⟩) (.type t)

/-- What an operand means depends on what the types are that the value mentions. -/
theorem Operand.Means.congr {h h' : Hierarchy} {o : Operand} {v : Value} (hmeans : o.Means h v)
    (hinfo : ∀ t, v.mentioned? = some t → h'.info t = h.info t) : o.Means h' v := by
  cases hmeans with
  | literal hechoes => exact .literal hechoes
  | infinite negative => exact .infinite negative
  | @member family name content hmember =>
      have hfamily := hinfo family rfl
      rw [Hierarchy.qualifiedName, ← hfamily]
      rw [Hierarchy.memberOf?, ← hfamily] at hmember
      exact .member hmember
  | type t =>
      rw [Hierarchy.qualifiedName, ← hinfo t rfl]
      exact .type t

variable {literals : String → Option Value}

/-- Whoever reads literals is asked about the texts that start as literals do. -/
theorem operand?_of_isLiteralText {text : String} (h : IsLiteralText text.toList) :
    operand? literals text = (literals text).map .literal := by
  have hother : ∀ constant ∈ constants, constant.toList.head?.any startsLiteral = false := by decide
  have hne : ∀ constant ∈ constants, text ≠ constant := by
    rintro _ hmem rfl
    have hstarts := hother _ hmem
    rw [h.starts] at hstarts
    cases hstarts
  rw [operand?_eq_term literals hne, term?, if_pos h.starts]

end Audit

/-- The literal of a value stands on one line, and is read as an operand that means the value. -/
theorem Value.reads_literal {literals : String → Option Value} {h : Hierarchy} {v : Value}
    (htells : v.IsTellable h)
    (hnames : ∀ t, v.mentioned? = some t → isIdentifier (h.qualifiedName t) = true)
    (hback : v.ReadsBack literals h) {text : String} (htext : v.literal? h = some text) :
    '\n' ∉ text.toList ∧ ∃ o, operand? literals text = some o ∧ o.Means h v := by
  have hread : ∀ {text : String}, IsLiteralText text.toList →
      (∃ v', literals text = some v' ∧ v'.Echoes v) →
        '\n' ∉ text.toList ∧ ∃ o, operand? literals text = some o ∧ o.Means h v := by
    rintro text hliteral ⟨v', hv', hechoes⟩
    exact ⟨hliteral.whole, _, by rw [operand?_of_isLiteralText hliteral, hv']; rfl, .literal hechoes⟩
  have hpath : ∀ (p : Path) {text : String}, p.IsNamed → p.text = text → Operand.Means h (.path p) v →
      '\n' ∉ text.toList ∧ ∃ o, operand? literals text = some o ∧ o.Means h v := by
    rintro p _ hp rfl hmeans
    exact ⟨Path.not_mem_text hp (.inr rfl), _, operand?_path hp, hmeans⟩
  -- Numbers and texts are read back as they are; classes and members are read as paths.
  cases v with
  | nothing =>
      cases htext
      exact ⟨(by decide : '\n' ∉ "None".toList), _, rfl, .literal (.same _)⟩
  | bool b =>
      cases htext
      cases b with
      | true => exact ⟨(by decide : '\n' ∉ "True".toList), _, rfl, .literal (.same _)⟩
      | false => exact ⟨(by decide : '\n' ∉ "False".toList), _, rfl, .literal (.same _)⟩
  | int i =>
      cases htext
      exact hread (isLiteralText_int i) hback
  | float x =>
      cases x with
      | notANumber => cases htext
      | infinite negative =>
          cases htext
          cases negative with
          | true => exact ⟨by decide, _, rfl, .infinite true⟩
          | false => exact ⟨by decide, _, rfl, .infinite false⟩
      | finite negative mantissa exponent =>
          cases htext
          exact hread (isLiteralText_finite negative mantissa exponent) hback
  | text s =>
      cases htext
      exact hread (Text.isLiteralText_quoted s) hback
  | member kind family name content =>
      obtain ⟨rfl, hname, hmember⟩ := htells
      cases htext
      exact hpath ⟨h.qualifiedName family, [name], none⟩ ⟨hnames family rfl, by simpa using hname⟩
        (String.append_empty ..) (.member hmember)
  | type t =>
      cases htext
      exact hpath ⟨h.qualifiedName t, [], none⟩ ⟨hnames t rfl, by simp⟩ (String.append_empty ..) (.type t)
  | _ => cases htext

/-- What has a literal, and is no member of an enumeration or one of a plain one, is equal to itself. -/
theorem Value.agrees_self {w : World} {v : Value} (htells : v.IsTellable w.hierarchy) {text : String}
    (htext : v.literal? w.hierarchy = some text) : v.agrees w v = true := by
  cases v with
  | float x =>
      cases x with
      | notANumber => cases htext
      | infinite negative => simp [agrees, plain, sameAtom, sameNumber?, Binary64.agrees]
      | finite negative mantissa exponent =>
          simp [agrees, plain, sameAtom, sameNumber?, Binary64.agrees, Binary64.sameScaled]
  | member kind family name content =>
      obtain ⟨rfl, -⟩ := htells
      simp [agrees, plain, sameAtom, sameNumber?, asInt?]
  | nothing => simp [agrees, plain, sameAtom, sameNumber?, asInt?]
  | bool b => simp [agrees, plain, sameAtom, sameNumber?, asInt?]
  | int i => simp [agrees, plain, sameAtom, sameNumber?, asInt?]
  | text s => simp [agrees, plain, sameAtom, sameNumber?, asInt?]
  | type t => simp [agrees, plain, sameAtom, sameNumber?, asInt?]
  | _ => cases htext

end TreeShape
