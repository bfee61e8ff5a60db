import Keystroke.Constant.Evaluate

/-! Which expressions are constant. A grammar says how they are built, and a look at each part by itself says the same:
a part is refused for what it is, or for what it takes a member of or calls. -/
namespace Keystroke.Constant

/-- Numbers and names, with operators, choices and brackets, and the members of the module `math`, which may be called
with such expressions. -/
inductive Arithmetic : Expr → Prop
  | int (value : Int) : Arithmetic (.int value)
  | float (value : Float) : Arithmetic (.float value)
  | name (place : Place) (text : String) : Arithmetic (.name place text)
  | paren {inner : Expr} (h : Arithmetic inner) : Arithmetic (.paren inner)
  | unary (op : UnaryOp) {operand : Expr} (h : Arithmetic operand) : Arithmetic (.unary op operand)
  | binary (op : BinaryOp) {left right : Expr} (hleft : Arithmetic left) (hright : Arithmetic right) :
    Arithmetic (.binary op left right)
  | cond {test yes no : Expr} (htest : Arithmetic test) (hyes : Arithmetic yes) (hno : Arithmetic no) :
    Arithmetic (.cond test yes no)
  | member (place : Place) (name : String) : Arithmetic (.dot (.name place "math") name)
  | call (place : Place) (name : String) {args : List Argument} (h : ∀ arg ∈ args, Arithmetic arg.value) :
    Arithmetic (.call (.dot (.name place "math") name) args)

namespace Expr

/-- An expression occurs in another one, at any depth. -/
inductive Within (e : Expr) : Expr → Prop
  | self : Within e e
  | part {whole p : Expr} (hp : p ∈ whole.parts) (h : Within e p) : Within e whole

/-- What an expression is by itself, whatever its parts are. Members have to be those of `math`, and only they are
called. -/
def Admitted : Expr → Prop
  | int _ | float _ | name _ _ | paren _ | unary _ _ | binary _ _ _ | cond _ _ _ => True
  | dot object _ => ∃ place, object = name place "math"
  | call callee _ => ∃ place member, callee = dot (name place "math") member
  | string | bytes | index _ _ | slice _ _ | list _ | tuple _ | dict _ | lambda _ _ | comprehension _ _ => False

end Expr

section Parts

open Keystroke.Constant.Expr

theorem induction_parts {P : Expr → Prop} (step : ∀ e : Expr, (∀ p ∈ e.parts, P p) → P e) (e : Expr) : P e :=
  step e fun p _ => induction_parts step p
termination_by sizeOf e
decreasing_by exact sizeOf_lt_of_mem_parts (by assumption)

/-- A property of expressions for which it is enough to look at each part by itself. -/
def ByParts (P : Expr → Prop) : Prop :=
  ∀ e : Expr, P e ↔ e.Admitted ∧ ∀ p ∈ e.parts, P p

theorem ByParts.iff {P Q : Expr → Prop} (hP : ByParts P) (hQ : ByParts Q) (e : Expr) : P e ↔ Q e := by
  induction e using induction_parts with
  | step e ih =>
    rw [hP, hQ]
    exact and_congr_right fun _ => forall₂_congr ih

theorem byParts_within : ByParts fun e => ∀ p, Within p e → p.Admitted := by
  intro e
  constructor
  · intro h
    exact ⟨h e .self, fun p hp q hq => h q (.part hp hq)⟩
  · rintro ⟨he, hparts⟩ p hp
    cases hp with
    | self => exact he
    | part hq h => exact hparts _ hq p h

theorem byParts_arithmetic : ByParts Arithmetic := by
  intro e
  constructor
  · intro h
    cases h with
    | int _ | float _ | name _ _ => exact ⟨trivial, by simp [parts]⟩
    | paren h | unary _ h => exact ⟨trivial, by simp [parts, h]⟩
    | binary _ hleft hright => exact ⟨trivial, by simp [parts, hleft, hright]⟩
    | cond htest hyes hno => exact ⟨trivial, by simp [parts, htest, hyes, hno]⟩
    | member place name => exact ⟨⟨place, rfl⟩, by simp [parts, Arithmetic.name]⟩
    | call place name h =>
      refine ⟨⟨place, name, rfl⟩, List.forall_mem_cons.mpr ⟨.member place name, ?_⟩⟩
      exact List.forall_mem_map.mpr h
  · rintro ⟨he, hparts⟩
    cases e with
    | int value => exact .int value
    | float value => exact .float value
    | name place text => exact .name place text
    | paren inner => exact .paren (hparts inner (by simp [parts]))
    | unary op operand => exact .unary op (hparts operand (by simp [parts]))
    | binary op left right => exact .binary op (hparts left (by simp [parts])) (hparts right (by simp [parts]))
    | cond test yes no =>
      exact .cond (hparts test (by simp [parts])) (hparts yes (by simp [parts])) (hparts no (by simp [parts]))
    | dot object member =>
      obtain ⟨place, rfl⟩ := he
      exact .member place member
    | call callee args =>
      obtain ⟨place, member, rfl⟩ := he
      refine .call place member ?_
      exact List.forall_mem_map.mp (List.forall_mem_cons.mp hparts).2
    | string | bytes | index _ _ | slice _ _ | list _ | tuple _ | dict _ | lambda _ _ | comprehension _ _ => cases he

theorem mathPlace_isSome {e : Expr} : e.mathPlace?.isSome ↔ ∃ place, e = name place "math" := by
  cases e with
  | name place text => by_cases htext : text = "math" <;> simp [mathPlace?, htext]
  | _ => simp [mathPlace?]

theorem isAdmitted_iff (e : Expr) : e.isAdmitted ↔ e.Admitted := by
  cases e with
  | dot object member => exact mathPlace_isSome
  | call callee args =>
    cases callee with
    | dot object member =>
      rw [isAdmitted, mathPlace_isSome]
      simp [Admitted]
    | _ => simp [isAdmitted, Admitted]
  | _ => simp [isAdmitted, Admitted]

/-- One refusal stands until the end of a walk. -/
theorem foldl_walk_eq_false_iff (l : List Expr) (refused : Bool) :
    l.foldl (fun refused p => p.walk refused) refused = false ↔
      refused = false ∧ ∀ p ∈ l, p.walk false = false := by
  induction l generalizing refused with
  | nil => simp
  | cons p rest ih =>
    rw [List.foldl_cons, ih, List.forall_mem_cons, ← and_assoc]
    refine and_congr_left fun _ => ?_
    cases refused with
    | false => simp
    | true =>
      rw [walk_eq]
      simp

theorem byParts_walk : ByParts fun e => e.walk false = false := by
  intro e
  have hwalk : e.walk false = false ↔ e.isAdmitted ∧ ∀ p ∈ e.parts, p.walk false = false := by
    rw [walk_eq]
    cases e.isAdmitted with
    | false => simp
    | true => simpa using foldl_walk_eq_false_iff e.parts false
  rw [isAdmitted_iff] at hwalk
  exact hwalk

theorem argsToFormula_isSome (args : List Argument) :
    (argsToFormula? args).isSome ↔ ∀ arg ∈ args, arg.value.toFormula?.isSome := by
  induction args with
  | nil => simp [argsToFormula?]
  | cons arg args ih =>
    obtain ⟨form, place, value⟩ := arg
    rw [List.forall_mem_cons, ← ih, argsToFormula?, Argument.value]
    cases value.toFormula? <;> cases argsToFormula? args <;> simp

theorem toFormula_dot_isSome {object : Expr} {member : String} :
    (dot object member).toFormula?.isSome ↔ ∃ place, object = name place "math" := by
  rw [← mathPlace_isSome, toFormula?]
  cases object.mathPlace? <;> simp

theorem toFormula_call_isSome {callee : Expr} {args : List Argument} :
    (call callee args).toFormula?.isSome ↔
      (∃ place member, callee = dot (name place "math") member) ∧ ∀ arg ∈ args, arg.value.toFormula?.isSome := by
  rw [← argsToFormula_isSome]
  cases callee with
  | dot object member =>
    have hcallee : (∃ place name', dot object member = dot (name place "math") name') ↔ object.mathPlace?.isSome := by
      rw [mathPlace_isSome]
      simp
    rw [hcallee, toFormula?]
    cases object.mathPlace? <;> cases argsToFormula? args <;> simp
  | _ => simp [toFormula?]

theorem byParts_toFormula : ByParts fun e => e.toFormula?.isSome := by
  intro e
  cases e with
  | int _ | float _ | name _ _ | paren _ => simp [toFormula?, parts, Admitted]
  | unary op operand => cases h : operand.toFormula? <;> simp [toFormula?, parts, Admitted, h]
  | binary op left right =>
    cases hleft : left.toFormula? <;> cases hright : right.toFormula? <;>
      simp [toFormula?, parts, Admitted, hleft, hright]
  | cond test yes no =>
    cases htest : test.toFormula? <;> cases hyes : yes.toFormula? <;> cases hno : no.toFormula? <;>
      simp [toFormula?, parts, Admitted, htest, hyes, hno]
  | dot object member =>
    refine toFormula_dot_isSome.trans (and_iff_left_of_imp ?_).symm
    rintro ⟨place, rfl⟩
    simp [parts, toFormula?]
  | call callee args =>
    refine toFormula_call_isSome.trans (and_congr_right ?_)
    -- The callee is a part as well, and as a member of `math` it passes.
    rintro ⟨place, member, rfl⟩
    have hcallee : (dot (name place "math") member).toFormula?.isSome := toFormula_dot_isSome.mpr ⟨place, rfl⟩
    rw [parts, List.forall_mem_cons, List.forall_mem_map, and_iff_right hcallee]
  | string | bytes | index _ _ | slice _ _ | list _ | tuple _ | dict _ | lambda _ _ | comprehension _ _ =>
    simp [toFormula?, Admitted]

end Parts

theorem numeral_ne_notConstant (value : Value) : value.numeral ≠ .error .notConstant := by
  cases value with
  | float value =>
    rw [Value.numeral]
    split <;> simp
  | _ => simp [Value.numeral]

theorem compute_eq_notConstant_iff {text : String} :
    compute text = .error .notConstant ↔ ∃ e, parse text = .ok e ∧ e.toFormula? = none := by
  constructor
  · intro h
    unfold compute at h
    split at h
    · simp at h
    · rename_i e hparse
      split at h
      · rename_i hnone
        exact ⟨e, hparse, hnone⟩
      -- What comes after the filter gives other causes.
      split at h
      · simp at h
      split at h
      · simp at h
      · exact absurd h (numeral_ne_notConstant _)
  · rintro ⟨e, hparse, hnone⟩
    unfold compute
    split
    · rename_i error herror
      rw [hparse] at herror
      cases herror
    · rename_i e' hother
      obtain rfl := Except.ok.inj (hparse.symm.trans hother)
      rw [hnone]

/-- An expression is taken for constant if it follows the grammar, which is so if all that occurs in it is admitted by
itself, and if a walk over it comes to its end without a refusal. An expression that does not is reported as not
constant, and no other text is. -/
theorem constant_iff_arithmetic :
    (∀ e : Expr, e.toFormula?.isSome ↔ Arithmetic e) ∧
    (∀ e : Expr, e.toFormula?.isSome ↔ ∀ p : Expr, p.Within e → p.Admitted) ∧
    (∀ e : Expr, e.walk false = false ↔ Arithmetic e) ∧
    ∀ text, compute text = .error .notConstant ↔ ∃ e, parse text = .ok e ∧ ¬ Arithmetic e := by
  have hgrammar (e : Expr) : e.toFormula?.isSome ↔ Arithmetic e := byParts_toFormula.iff byParts_arithmetic e
  refine ⟨hgrammar, byParts_toFormula.iff byParts_within, byParts_walk.iff byParts_arithmetic, ?_⟩
  intro text
  simp only [compute_eq_notConstant_iff, ← hgrammar, Option.not_isSome_iff_eq_none]

end Keystroke.Constant
