import TreeShape.Proofs.Attributes.Running
import TreeShape.Proofs.Sample

/-!
# Literals as expressions

Whoever reads a literal as an expression finds a constant, a call that makes an infinite number, or a path of
names, which mean what the namespace of the reader says.  If the types stand there under their qualified
names, what is read is equal to what was written, and the very same thing where there is only one of it.

The members of enumerations that are also numbers or texts are an exception.  They are written as they are
displayed, between angle brackets, and no expression starts with one.  Only members that are infinite floats
fare better: they are written like any infinite float, which is equal to them but is not the member.

## Strategy

* `read_of_literal` goes through the kinds of values that have literals.  Constants, texts and numbers are
  read as `Value.reads_literal` says; a type or a member is a path of names, which `Reader.follow_attr`
  follows one attribute at a time.
* `read_of_infinite` is about infinite floats, be they members or not.
* `operand?_of_angle` says that nothing is read from what starts with an angle bracket, and `literal?_blended`
  that the texts of the remaining members do.
-/

namespace TreeShape

open Replay

namespace Audit

/-! ## Readers -/

/-- Someone who reads expressions: how the literals of texts and numbers are read, what the names of the
namespace are bound to, and what reading an attribute gives. -/
structure Reader where
  literals : String → Option Value
  names : String → Option Value
  get : Value → String → Option Value

namespace Reader

variable {r : Reader} {p : Path}

/-- What a path leads to. -/
def follow (r : Reader) (p : Path) : Option Value := do
  let start ← r.names p.root
  let v ← p.attributes.foldlM r.get start
  match p.index with
  | none => return v
  | some k => (v.item k).toOption

/-- The value of an expression.  Infinite numbers are made by a function that no name may hide. -/
def eval (r : Reader) : Operand → Option Value
  | .literal v => some v
  | .infinite negative =>
    if (r.names floatName).isNone then some (.float (.infinite negative)) else none
  | .path p => r.follow p

/-- Reads a text as an expression, and gives its value. -/
def read (r : Reader) (text : String) : Option Value := (operand? r.literals text).bind r.eval

/-- A type is bound under its qualified name, and has its members as attributes if it is an enumeration. -/
structure Binds (r : Reader) (h : Hierarchy) (t : NodeType) : Prop where
  named : ∃ p : Path,
    p.IsNamed ∧ p.index = none ∧ p.text = h.qualifiedName t ∧ r.follow p = some (.type t)
  members : ∀ name v, h.memberOf? t name = some v → r.get (.type t) name = some v

theorem follow_attr (hp : p.index = none) (name : String) :
    r.follow (p.attr name) = (r.follow p).bind fun v => r.get v name := by
  simp only [follow, Path.attr, hp, List.foldlM_append, List.foldlM_cons, List.foldlM_nil,
    Option.bind_eq_bind, Option.pure_def, Option.bind_fun_some, Option.bind_assoc]

theorem read_text (hp : p.IsNamed) : r.read p.text = r.follow p := by
  rw [read, operand?_path hp, Option.bind_some, eval]

end Reader

/-- No expression starts with an angle bracket. -/
theorem operand?_of_angle {literals : String → Option Value} (text : String) :
    operand? literals ("<" ++ text) = none := by
  have hlist : ("<" ++ text).toList = '<' :: text.toList := by
    rw [String.toList_append]
    rfl
  have hother : ∀ constant ∈ constants, constant.toList.head? ≠ some '<' := by decide
  have hne : ∀ constant ∈ constants, "<" ++ text ≠ constant := by
    rintro _ hmem rfl
    exact hother _ hmem (by rw [hlist, List.head?_cons])
  have hpath : path? ('<' :: text.toList) = none := by
    rw [path?, List.takeWhile_cons_of_pos (by decide), scan, if_neg (by decide), if_neg (by decide),
      if_neg (by decide)]
    rfl
  rw [operand?_eq_term literals hne, term?, hlist, if_neg (by rw [List.head?_cons]; decide), hpath,
    Option.map_none]

end Audit

/-! ## Literals -/

namespace Value

/-- The kinds of values that have literals. -/
def HasLiteral : Value → Prop
  | .float x => x ≠ .notANumber
  | .member .float _ _ (.float x) => x ≠ .notANumber
  | .node _ | .list _ | .tuple _ | .formless _ => False
  | _ => True

/-- An infinite float, which may be a member of an enumeration. -/
def IsInfinite (v : Value) : Prop := ∃ negative, v.float? = some (.infinite negative)

/-- A member of an enumeration whose members are also numbers or texts, if it has a literal and is not
infinite. -/
def IsBlended : Value → Prop
  | .member kind family name content => kind ≠ .plain ∧ (member kind family name content).HasLiteral ∧
      ¬ (member kind family name content).IsInfinite
  | _ => False

/-- There is only one such value: nothing, a truth value, a member of an enumeration, or a type. -/
def IsSingle : Value → Prop
  | .nothing | .bool _ | .member _ _ _ _ | .type _ => True
  | _ => False

/-- A member of an enumeration is what its name denotes there. -/
def IsDenoted (h : Hierarchy) : Value → Prop
  | .member kind family name content =>
    isIdentifier name = true ∧ h.memberOf? family name = some (.member kind family name content)
  | _ => True

variable {h : Hierarchy} {r : Audit.Reader} {v : Value}

theorem literal?_eq_none_iff : v.literal? h = none ↔ ¬ v.HasLiteral := by
  cases v with
  | float x => cases x <;> simp [literal?, finiteLiteral?, float?, HasLiteral]
  | member kind family name content =>
      cases kind with
      | float =>
          cases content with
          | float x => cases x <;> simp [literal?, finiteLiteral?, float?, HasLiteral]
          | _ => simp [literal?, finiteLiteral?, float?, HasLiteral]
      | _ => simp [literal?, finiteLiteral?, float?, HasLiteral]
  | _ => simp [literal?, finiteLiteral?, float?, HasLiteral]

theorem not_isInfinite_of_float?_eq_none (hv : v.float? = none) : ¬ v.IsInfinite := by
  rintro ⟨negative, hinfinite⟩
  rw [hv] at hinfinite
  cases hinfinite

theorem literal?_of_float? {x : Binary64} (hx : v.float? = some x) (hnumber : v.HasLiteral)
    (hfinite : ¬ v.IsInfinite) : v.literal? h = v.finiteLiteral? h := by
  cases x with
  | notANumber =>
      have hnone : v.literal? h = none := by rw [literal?, hx]
      exact absurd hnumber (literal?_eq_none_iff.mp hnone)
  | infinite negative => exact absurd ⟨negative, hx⟩ hfinite
  | finite _ _ _ => rw [literal?, hx]

/-- A blended member is written as it is displayed. -/
theorem literal?_blended {kind : EnumKind} {family : NodeType} {name : String} {content : Value}
    (hblended : (member kind family name content).IsBlended) :
    (member kind family name content).literal? h =
      some (memberText h family name (content.display h)) := by
  obtain ⟨hkind, hliteral, hfinite⟩ := hblended
  have hdisplay : (member kind family name content).finiteLiteral? h =
      some (memberText h family name (content.display h)) := by
    cases kind with
    | plain => exact absurd rfl hkind
    | _ => rfl
  cases hfloat : (member kind family name content).float? with
  | none => rw [literal?, hfloat, hdisplay]
  | some x => rw [literal?_of_float? hfloat hliteral hfinite, hdisplay]

theorem IsDenoted.isTellable (hdenoted : v.IsDenoted h) (hliteral : v.HasLiteral) (hplain : ¬ v.IsBlended)
    (hfinite : ¬ v.IsInfinite) : v.IsTellable h := by
  cases v with
  | member kind family name content =>
      exact ⟨not_not.mp fun hkind => hplain ⟨hkind, hliteral, hfinite⟩, hdenoted⟩
  | _ => trivial

/-- The text of a blended member is no expression. -/
theorem IsBlended.operand?_eq_none (hblended : v.IsBlended) {literals : String → Option Value}
    {text : String} (htext : v.literal? h = some text) : Audit.operand? literals text = none := by
  cases v with
  | member kind family name content =>
      obtain rfl := Option.some.inj ((literal?_blended hblended).symm.trans htext)
      simp only [memberText, String.append_assoc]
      exact Audit.operand?_of_angle _
  | _ => exact hblended.elim

/-- An infinite float is read from its literal, if nothing hides the function that makes it. -/
theorem read_of_infinite {negative : Bool} (hv : v.float? = some (.infinite negative))
    (hfloat : r.names Audit.floatName = none) : v.literal? h = some (infiniteText negative) ∧
      r.read (infiniteText negative) = some (.float (.infinite negative)) := by
  refine ⟨by rw [literal?, hv], ?_⟩
  have hoperand : Audit.operand? r.literals (infiniteText negative) = some (.infinite negative) := by
    cases negative <;> rfl
  rw [Audit.Reader.read, hoperand, Option.bind_some, Audit.Reader.eval, hfloat]
  rfl

/-- The literal of a value that mentions no type is read whatever the types are called. -/
theorem read_of_unmentioned (hnone : v.mentioned? = none)
    (hfloat : ∀ negative, v = .float (.infinite negative) → r.names Audit.floatName = none)
    (hback : v.ReadsBack r.literals h) {text : String} (htext : v.literal? h = some text) :
    ∃ v', r.read text = some v' ∧ v'.Echoes v := by
  have htells : v.IsTellable h := by
    cases v with
    | member kind family name content => cases hnone
    | _ => trivial
  obtain ⟨-, o, ho, hmeans⟩ := reads_literal htells (by simp [hnone]) hback htext
  rw [Audit.Reader.read, ho, Option.bind_some]
  cases hmeans with
  | literal hechoes => exact ⟨_, rfl, hechoes⟩
  | infinite negative => exact ⟨_, by rw [Audit.Reader.eval, hfloat negative rfl]; rfl, .same _⟩
  | member _ => cases hnone
  | type t => cases hnone

/-- The qualified name of a type is read as the type. -/
theorem read_of_type {t : NodeType} (hbound : r.Binds h t) :
    r.read (h.qualifiedName t) = some (.type t) := by
  obtain ⟨p, hp, -, htext, hfollow⟩ := hbound.named
  rw [← htext, Audit.Reader.read_text hp, hfollow]

/-- The name of a member behind the qualified name of its enumeration is read as the member. -/
theorem read_of_member {family : NodeType} {name : String} (hbound : r.Binds h family)
    (hname : isIdentifier name = true) (hmember : h.memberOf? family name = some v) :
    r.read (h.qualifiedName family ++ "." ++ name) = some v := by
  obtain ⟨p, hp, hindex, htext, hfollow⟩ := hbound.named
  rw [← htext, ← Audit.Path.text_attr hindex, Audit.Reader.read_text (hp.attr hname),
    Audit.Reader.follow_attr hindex, hfollow, Option.bind_some]
  exact hbound.members name v hmember

/-- What has a literal, and is neither blended nor infinite, is read from it. -/
theorem read_of_literal (hbound : ∀ t, v.mentioned? = some t → r.Binds h t) (hdenoted : v.IsDenoted h)
    (hback : v.ReadsBack r.literals h) (hplain : ¬ v.IsBlended) (hfinite : ¬ v.IsInfinite) {text : String}
    (htext : v.literal? h = some text) : ∃ v', r.read text = some v' ∧ v'.Echoes v := by
  cases v with
  | member kind family name content =>
      have hliteral : (member kind family name content).HasLiteral := by
        by_contra hnone
        rw [literal?_eq_none_iff.mpr hnone] at htext
        cases htext
      obtain rfl : kind = .plain := not_not.mp fun hkind => hplain ⟨hkind, hliteral, hfinite⟩
      cases htext
      exact ⟨_, read_of_member (hbound family rfl) hdenoted.1 hdenoted.2, .same _⟩
  | type t =>
      cases htext
      exact ⟨_, read_of_type (hbound t rfl), .same _⟩
  | _ => exact read_of_unmentioned rfl (fun negative hv => absurd ⟨negative, by rw [hv]; rfl⟩ hfinite) hback htext

variable {w : World} {v' : Value}

/-- What is read back is equal to what was written. -/
theorem Echoes.agrees (hechoes : v'.Echoes v) (hself : v.agrees w v = true) : v'.agrees w v = true := by
  cases hechoes with
  | same => exact hself
  | float hxy => simp [Value.agrees, plain, sameAtom, sameNumber?, hxy]

theorem Echoes.eq_of_isSingle (hechoes : v'.Echoes v) (hsingle : v.IsSingle) : v' = v := by
  cases hechoes with
  | same => rfl
  | float _ => exact hsingle.elim

/-- An infinite float is equal to what its literal is read as. -/
theorem infinite_agrees {negative : Bool} (hv : v.float? = some (.infinite negative)) :
    (Value.float (.infinite negative)).agrees w v = true := by
  have hplain : v.plain = .float (.infinite negative) := by
    cases v with
    | float x => exact congrArg Value.float (Option.some.inj hv)
    | member kind family name content =>
        cases kind with
        | float =>
            cases content with
            | float x => exact congrArg Value.float (Option.some.inj hv)
            | _ => cases hv
        | _ => cases hv
    | _ => cases hv
  have hself : sameAtom (.float (.infinite negative)) (.float (.infinite negative)) = true := by
    simp [sameAtom, sameNumber?, Binary64.agrees]
  rw [agrees, hplain]
  · simp [plain, hself]
  · rintro xs ys h -
    cases h
  · rintro xs ys h -
    cases h

/-- Where there is only one such value, it is the float that was read only if it is no infinite member. -/
private theorem infinite_ne {negative : Bool} (hsingle : v.IsSingle) :
    Value.float (.infinite negative) ≠ v := by
  rintro rfl
  exact hsingle

/-- Exactly the values of the kinds that have literals have one.  Its text is an expression for a value that
is equal to the given one, and is the given one where there is only one such value, unless that is infinite.
The members of enumerations that are also numbers or texts have a text as well, but it is no expression:
infinite ones apart, which are read as the infinite float that they are, and not as the member. -/
theorem literal_reads_back (w : World) (r : Audit.Reader) (v : Value)
    (hbound : ∀ t, v.mentioned? = some t → r.Binds w.hierarchy t)
    (hfloat : v.IsInfinite → r.names Audit.floatName = none)
    (hdenoted : v.IsDenoted w.hierarchy) (hback : v.ReadsBack r.literals w.hierarchy) :
    (v.literal? w.hierarchy = none ↔ ¬ v.HasLiteral) ∧
    (v.HasLiteral → ¬ v.IsBlended → ∃ text v', v.literal? w.hierarchy = some text ∧
      r.read text = some v' ∧ v'.agrees w v = true ∧ (v.IsSingle → (v' = v ↔ ¬ v.IsInfinite))) ∧
    (v.IsBlended → ∃ text, v.literal? w.hierarchy = some text ∧ r.read text = none) := by
  have hsome : v.HasLiteral → ∃ text, v.literal? w.hierarchy = some text := fun hv =>
    Option.ne_none_iff_exists'.mp fun hnone => literal?_eq_none_iff.mp hnone hv
  refine ⟨literal?_eq_none_iff, fun hv hplain => ?_, fun hblended => ?_⟩
  · by_cases hinfinite : v.IsInfinite
    · obtain ⟨negative, hnegative⟩ := hinfinite
      obtain ⟨htext, hread⟩ := read_of_infinite hnegative (hfloat ⟨negative, hnegative⟩)
      exact ⟨_, _, htext, hread, infinite_agrees hnegative, fun hsingle =>
        iff_of_false (infinite_ne hsingle) (not_not.mpr ⟨negative, hnegative⟩)⟩
    · obtain ⟨text, htext⟩ := hsome hv
      obtain ⟨v', hread, hechoes⟩ := read_of_literal hbound hdenoted hback hplain hinfinite htext
      have hself := agrees_self (hdenoted.isTellable hv hplain hinfinite) htext
      exact ⟨text, v', htext, hread, hechoes.agrees hself, fun hsingle =>
        iff_of_true (hechoes.eq_of_isSingle hsingle) hinfinite⟩
  · have hv : v.HasLiteral := by
      cases v with
      | member kind family name content => exact hblended.2.1
      | _ => exact hblended.elim
    obtain ⟨text, htext⟩ := hsome hv
    exact ⟨text, htext, by rw [Audit.Reader.read, hblended.operand?_eq_none htext, Option.bind_none]⟩

end Value

/-! ## A palette -/

namespace Sample

def color : NodeType := ⟨3⟩

def shape : NodeType := ⟨4⟩

def rank : NodeType := ⟨5⟩

def red : Value := .member .plain color "RED" (.int 1)

/-- A member that is a number too. -/
def top : Value := .member .integer rank "TOP" (.int 1)

/-- An enumeration inside a type, and one whose members are numbers. -/
def palette : World where
  hierarchy := ⟨#[typeInfo "object" [.anything], typeInfo "NoneType" [.absence, .anything],
    typeInfo "Node" [.common, .anything],
    { typeInfo "Color" [color, .anything] with
      qualifiedName := "Shape.Color", members := some [("RED", red)] },
    typeInfo "Shape" [shape, .anything],
    { typeInfo "Rank" [rank, .anything] with members := some [("TOP", top)] }]⟩
  forest := .empty
  registries := []

/-- Reads whole numbers, and knows the types of the palette. -/
def paletteReader : Audit.Reader where
  literals text := (Text.readWhole text).toOption.map .int
  names name :=
    if name = "Shape" then some (.type shape) else if name = "Rank" then some (.type rank) else none
  get v name := match v with
    | .type t => if t = shape ∧ name = "Color" then some (.type color)
      else palette.hierarchy.memberOf? t name
    | _ => none

theorem binds_color : paletteReader.Binds palette.hierarchy color where
  named := ⟨⟨"Shape", ["Color"], none⟩, ⟨by decide, by decide⟩, rfl, by decide, rfl⟩
  members name v hv := by
    have hne : color ≠ shape := by decide
    simp only [paletteReader, hne, false_and, if_false, hv]

end Sample

namespace Value

/-- A member of the enumeration inside the type, and a number, are read from their literals. -/
theorem literal_reads_back_palette :
    (∃ text, Sample.red.literal? Sample.palette.hierarchy = some text ∧
      Sample.paletteReader.read text = some Sample.red) ∧
    ∃ text v', (Value.int (-7)).literal? Sample.palette.hierarchy = some text ∧
      Sample.paletteReader.read text = some v' ∧ v'.agrees Sample.palette (.int (-7)) = true := by
  constructor
  · have hbound : ∀ t, Sample.red.mentioned? = some t →
        Sample.paletteReader.Binds Sample.palette.hierarchy t := by
      intro t ht
      cases ht
      exact Sample.binds_color
    have hfinite : ¬ Sample.red.IsInfinite := not_isInfinite_of_float?_eq_none rfl
    obtain ⟨text, v', htext, hread, -, hsame⟩ :=
      (literal_reads_back Sample.palette Sample.paletteReader Sample.red hbound
        (fun hinfinite => absurd hinfinite hfinite) ⟨by decide, rfl⟩ trivial).2.1 trivial
          (fun hblended => hblended.1 rfl)
    exact ⟨text, htext, (hsame trivial).mpr hfinite ▸ hread⟩
  · have hfinite : ¬ (Value.int (-7)).IsInfinite := not_isInfinite_of_float?_eq_none rfl
    obtain ⟨text, v', htext, hread, hagrees, -⟩ :=
      (literal_reads_back Sample.palette Sample.paletteReader (.int (-7)) nofun
        (fun hinfinite => absurd hinfinite hfinite) trivial ⟨.int (-7), rfl, .same _⟩).2.1 trivial id
    exact ⟨text, v', htext, hread, hagrees⟩

/-- A member that is a number too has a text that nobody can read as an expression. -/
theorem blended_literal_unread : Sample.top.HasLiteral ∧
    Sample.top.literal? Sample.palette.hierarchy = some "<Rank.TOP: 1>" ∧
    ∀ r : Audit.Reader, r.read "<Rank.TOP: 1>" = none := by
  have hblended : Sample.top.IsBlended :=
    ⟨by decide, trivial, not_isInfinite_of_float?_eq_none rfl⟩
  refine ⟨trivial, by decide, fun r => ?_⟩
  rw [Audit.Reader.read, hblended.operand?_eq_none (by decide : Sample.top.literal? Sample.palette.hierarchy = _),
    Option.bind_none]

end Value

end TreeShape
