/-
Module: Relq.Builders.Predicates
Layer: Builders
Purpose: The classes `Predicate` and `NullablePredicate` of the builders (`expressions/core.py`). A
  builder chooses the class of its result from the classes of its operands; the value of a `Predicate`
  is TRUE or FALSE on every row, whatever the operands are.
Imports: Relq.Library.Outcome, Relq.Semantics.Evaluation, Relq.Compiler.Model
Trusted boundary: human-reviewed spec (Expression and its builders, Constructed)
Main exports: Expression, combineTruth, Constructed, predicate_twoValued
-/
import Relq.Library.Outcome
import Relq.Semantics.Evaluation
import Relq.Compiler.Model

namespace Relq

open ThreeValued Outcome

variable {V : Type}

/-- An object of class `Expr`, `Predicate` or `NullablePredicate`, with its node. -/
inductive Expression (V : Type) where
  | expr (node : Node V)
  | predicate (node : Node V)
  | nullablePredicate (node : Node V)

namespace Expression

/-- `node_of`. -/
def node : Expression V → Node V
  | expr node | predicate node | nullablePredicate node => node

/-! ### Methods of `Expr`, inherited by both predicate classes -/

/-- `_node`: another expression, or a Python object that becomes a bound value. -/
def operand : Expression V ⊕ V → Node V
  | .inl other => other.node
  | .inr value => .value value

/-- `is_null`, `is_not_null`, `is_true`, `is_false`, `is_not_true` and `is_not_false`. -/
def check (operator : UnaryOperator) (self : Expression V) : Expression V :=
  predicate (.unary operator self.node)

def isNull (self : Expression V) : Expression V := self.check .isNull
def isNotNull (self : Expression V) : Expression V := self.check .isNotNull
def isTrue (self : Expression V) : Expression V := self.check .isTrue
def isFalse (self : Expression V) : Expression V := self.check .isFalse
def isNotTrue (self : Expression V) : Expression V := self.check .isNotTrue
def isNotFalse (self : Expression V) : Expression V := self.check .isNotFalse

/-- `lt`, `lte`, `gt`, `gte` and `like`, and `eq` and `ne` for a value other than `None`. -/
def comparison (operator : BinaryOperator) (self : Expression V) (other : Expression V ⊕ V) :
    Expression V :=
  nullablePredicate (.binary self.node operator (operand other))

/-- `eq(None)` and `ne(None)`. -/
def comparisonWithNone (equal : Bool) (self : Expression V) : Expression V :=
  nullablePredicate (.unary (if equal then .isNull else .isNotNull) self.node)

/-- `in_` and `not_in` for a query. -/
def inQuery (self : Expression V) (query : SelectNode V) (negated : Bool) : Expression V :=
  nullablePredicate (.inNode self.node (.select query) negated)

/-- `in_` and `not_in` for values: without any, the answer is bound as a value. -/
def inItems (ofBool : Bool → V) (self : Expression V) (items : List (Expression V ⊕ V))
    (negated : Bool) : Expression V :=
  if items.isEmpty then nullablePredicate (.value (ofBool negated))
  else nullablePredicate (.inNode self.node (.nodes (items.map operand)) negated)

def between (self : Expression V) (lower upper : Expression V ⊕ V) (negated : Bool) : Expression V :=
  nullablePredicate (.between self.node (operand lower) (operand upper) negated)

/-! ### Combinations of truth expressions -/

def notTruthError : PyError :=
  .typeError "SQL boolean operations require a SQL truth expression"

def combineTruth (left : Node V) (operator : BinaryOperator) (right : Expression V) :
    Except PyError (Expression V) :=
  match right with
  | predicate node => .ok (predicate (.binary left operator node))
  | nullablePredicate node => .ok (nullablePredicate (.binary left operator node))
  | expr _ => .error notTruthError

/-- `self & other` and `self | other`; a plain `Expr` has neither. -/
def combine (operator : BinaryOperator) (self other : Expression V) :
    Except PyError (Expression V) :=
  match self with
  | predicate node => combineTruth node operator other
  | nullablePredicate node => .ok (nullablePredicate (.binary node operator other.node))
  | expr _ => .error notTruthError

def and (self other : Expression V) : Except PyError (Expression V) := combine .and self other
def or (self other : Expression V) : Except PyError (Expression V) := combine .or self other

/-- `~self`. -/
def invert (self : Expression V) : Except PyError (Expression V) :=
  match self with
  | predicate node => .ok (predicate (.unary .not node))
  | nullablePredicate node => .ok (nullablePredicate (.unary .not node))
  | expr _ => .error notTruthError

def «exists» (query : SelectNode V) : Expression V := predicate (.exists query false)
def notExists (query : SelectNode V) : Expression V := predicate (.exists query true)

def overlaps (leftStart leftEnd rightStart rightEnd : Expression V) : Expression V :=
  nullablePredicate
    (.temporalOverlaps leftStart.node leftEnd.node rightStart.node rightEnd.node)

def regexMatch (value : Expression V) (pattern : Expression V ⊕ V) (insensitive : Bool) :
    Expression V :=
  nullablePredicate (.regexMatch value.node (operand pattern) insensitive)

end Expression

/-- What the public builders can construct. Nothing is assumed about the node of a plain `Expr`, which
may come from any of the other builders. -/
inductive Constructed : Expression V → Prop where
  | expr (node : Node V) : Constructed (.expr node)
  | isNull {self : Expression V} (built : Constructed self) : Constructed self.isNull
  | isNotNull {self : Expression V} (built : Constructed self) : Constructed self.isNotNull
  | isTrue {self : Expression V} (built : Constructed self) : Constructed self.isTrue
  | isFalse {self : Expression V} (built : Constructed self) : Constructed self.isFalse
  | isNotTrue {self : Expression V} (built : Constructed self) : Constructed self.isNotTrue
  | isNotFalse {self : Expression V} (built : Constructed self) : Constructed self.isNotFalse
  | comparison (operator : BinaryOperator) {self : Expression V} (other : Expression V ⊕ V)
      (built : Constructed self) : Constructed (self.comparison operator other)
  | comparisonWithNone (equal : Bool) {self : Expression V} (built : Constructed self) :
      Constructed (self.comparisonWithNone equal)
  | inQuery {self : Expression V} (query : SelectNode V) (negated : Bool) (built : Constructed self) :
      Constructed (self.inQuery query negated)
  | inItems (ofBool : Bool → V) {self : Expression V} (items : List (Expression V ⊕ V))
      (negated : Bool) (built : Constructed self) : Constructed (self.inItems ofBool items negated)
  | between {self : Expression V} (lower upper : Expression V ⊕ V) (negated : Bool)
      (built : Constructed self) : Constructed (self.between lower upper negated)
  | and {self other result : Expression V} (built : Constructed self) (built' : Constructed other)
      (done : self.and other = .ok result) : Constructed result
  | or {self other result : Expression V} (built : Constructed self) (built' : Constructed other)
      (done : self.or other = .ok result) : Constructed result
  | invert {self result : Expression V} (built : Constructed self) (done : self.invert = .ok result) :
      Constructed result
  | exists (query : SelectNode V) : Constructed (.exists query)
  | notExists (query : SelectNode V) : Constructed (.notExists query)
  | overlaps {leftStart leftEnd rightStart rightEnd : Expression V} (opens : Constructed leftStart)
      (closes : Constructed leftEnd) (opens' : Constructed rightStart) (closes' : Constructed rightEnd) :
      Constructed (.overlaps leftStart leftEnd rightStart rightEnd)
  | regexMatch {value : Expression V} (pattern : Expression V ⊕ V) (insensitive : Bool)
      (built : Constructed value) : Constructed (.regexMatch value pattern insensitive)

/-! ### Two-valued expressions -/

section

variable {D : Type} (I : Interpretation V D)

/-- The expression is TRUE or FALSE, as a value and as a condition. -/
def TwoValued (node : Node V) : Prop :=
  ∃ b, evaluate I node = some (I.ofBool b)

variable {I}

theorem TwoValued.known {node : Node V} (twoValued : TwoValued I node) :
    Known (I.truth (evaluate I node)) := by
  obtain ⟨b, value⟩ := twoValued
  rw [value, Interpretation.truth, Option.map_some, I.holds_ofBool]
  exact known_some b

theorem twoValued_of_known {node : Node V} {truth : Truth} (known : Known truth)
    (value : evaluate I node = I.ofTruth truth) : TwoValued I node := by
  cases truth with
  | none => exact absurd rfl known
  | some b => exact ⟨b, value⟩

/-- A check with IS knows its answer for every operand. -/
theorem twoValued_check {operator : UnaryOperator} (proper : operator ≠ .not) (operand : Node V) :
    TwoValued I (.unary operator operand) := by
  rw [TwoValued, evaluate]
  cases operator with
  | not => exact absurd rfl proper
  | _ => exact ⟨_, rfl⟩

theorem TwoValued.invert {operand : Node V} (twoValued : TwoValued I operand) :
    TwoValued I (.unary .not operand) := by
  apply twoValued_of_known twoValued.known.not
  rw [evaluate]
  rfl

theorem TwoValued.and {left right : Node V} (first : TwoValued I left) (second : TwoValued I right) :
    TwoValued I (.binary left .and right) := by
  apply twoValued_of_known (first.known.and second.known)
  rw [evaluate]
  rfl

theorem TwoValued.or {left right : Node V} (first : TwoValued I left) (second : TwoValued I right) :
    TwoValued I (.binary left .or right) := by
  apply twoValued_of_known (first.known.or second.known)
  rw [evaluate]
  rfl

theorem twoValued_exists (query : SelectNode V) (negated : Bool) :
    TwoValued I (.exists query negated) := by
  rw [TwoValued, evaluate]
  exact ⟨_, rfl⟩

/-- A combination is a `Predicate` only if both operands are. -/
theorem combine_predicate {operator : BinaryOperator} {self other : Expression V} {node : Node V}
    (done : self.combine operator other = .ok (.predicate node)) :
    ∃ left right, self = .predicate left ∧ other = .predicate right ∧
      node = .binary left operator right := by
  cases self with
  | expr left => cases done
  | nullablePredicate left => cases done
  | predicate left =>
      cases other with
      | expr right => cases done
      | nullablePredicate right => cases done
      | predicate right =>
          cases done
          exact ⟨left, right, rfl, rfl, rfl⟩

/-- Every expression of class `Predicate` is TRUE or FALSE and never UNKNOWN, whatever the columns,
the bound values and the rows of nested queries are. -/
theorem predicate_twoValued (I : Interpretation V D) {expression : Expression V} {node : Node V}
    (built : Constructed expression) (isPredicate : expression = .predicate node) : TwoValued I node := by
  induction built generalizing node with
  | expr => cases isPredicate
  | isNull | isNotNull | isTrue | isFalse | isNotTrue | isNotFalse =>
      cases isPredicate
      exact twoValued_check (by decide) _
  | comparison | comparisonWithNone | inQuery | between | overlaps | regexMatch => cases isPredicate
  | inItems ofBool items =>
      rw [Expression.inItems] at isPredicate
      split at isPredicate
      · cases isPredicate
      · cases isPredicate
  | and _ _ done ih ih' =>
      subst isPredicate
      obtain ⟨left, right, rfl, rfl, rfl⟩ := combine_predicate done
      exact (ih rfl).and (ih' rfl)
  | or _ _ done ih ih' =>
      subst isPredicate
      obtain ⟨left, right, rfl, rfl, rfl⟩ := combine_predicate done
      exact (ih rfl).or (ih' rfl)
  | @invert self result _ done ih =>
      subst isPredicate
      cases self with
      | expr operand => cases done
      | nullablePredicate operand => cases done
      | predicate operand =>
          cases done
          exact (ih rfl).invert
  | «exists» query =>
      cases isPredicate
      exact twoValued_exists query false
  | notExists query =>
      cases isPredicate
      exact twoValued_exists query true

end

/-- A row without any value in it. -/
def nullRow : Interpretation Unit Int where
  column _ _ := none
  value _ := some 0
  ofBool b := if b then 1 else 0
  holds d := d != 0
  holds_ofBool b := by cases b <;> rfl
  compare _ left right := left == right
  operate _ _ := some 0
  rows _ := []
  outside _ := none

/-- `~users.nickname.eq(other).is_true()`, where the comparison is UNKNOWN. -/
theorem predicate_twoValued_nullNickname :
    TwoValued nullRow
      (.unary .not (.unary .isTrue (.binary (.column "users" "nickname") .eq (.value ())))) :=
  predicate_twoValued nullRow
    (.invert
      (.isTrue (.comparison .eq (.inr ()) (.expr (.column "users" "nickname")))) rfl)
    rfl

end Relq
