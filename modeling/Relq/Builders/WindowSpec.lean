/-
Module: Relq.Builders.WindowSpec
Layer: Builders
Purpose: Window expressions as their builder makes them (`WindowSpec` and the frame boundaries of
  `expressions/analytics.py`), and PostgreSQL's rules for frames. The builder places a boundary on a
  numeric line, with the offset as a Python float, and compares places; PostgreSQL compares kinds.
Imports: Mathlib.Algebra.GroupWithZero.Basic, Mathlib.Algebra.GroupWithZero.Nat, Relq.Library.Outcome,
  Relq.Compiler.Accepted, Relq.Compiler.Render
Trusted boundary: human-reviewed spec (the builders, toFloat, FrameLegal)
Main exports: FrameBoundary, validateFrameBounds, WindowSpec, WindowSpec.build, FrameLegal,
  frameLegal_iff
-/
import Mathlib.Algebra.GroupWithZero.Basic
import Mathlib.Algebra.GroupWithZero.Nat
import Relq.Library.Outcome
import Relq.Compiler.Accepted
import Relq.Compiler.Render

namespace Relq

open Outcome

variable {V : Type}

/-- What a builder raises. -/
inductive BuilderError where
  | valueError (message : String)
  | assertionError
  | overflowError
deriving DecidableEq, Repr

/-! ### Frame boundaries -/

def FrameBoundaryNode.WellFormed (boundary : FrameBoundaryNode) : Prop :=
  match boundary.kind with
  | .preceding | .following => ∃ amount : Nat, boundary.amount = some (amount : Int)
  | _ => boundary.amount = none

/-- `FrameBoundary`: only the functions below make one. -/
structure FrameBoundary where
  node : FrameBoundaryNode
  wellFormed : node.WellFormed

def unboundedPreceding : FrameBoundary :=
  ⟨{ kind := .unboundedPreceding }, rfl⟩

def currentRow : FrameBoundary :=
  ⟨{ kind := .currentRow }, rfl⟩

def unboundedFollowing : FrameBoundary :=
  ⟨{ kind := .unboundedFollowing }, rfl⟩

/-- `_frame_offset`, for the two kinds that take an offset. -/
def frameOffset (kind : BoundaryKind) (isOffset : kind = .preceding ∨ kind = .following)
    (amount : Int) : Except BuilderError FrameBoundary :=
  if negative : amount < 0 then
    .error (.valueError "{} frame offset must be a non-negative integer")
  else
    .ok ⟨{ kind, amount := some amount }, by
      have natural : ∃ offset : Nat, some amount = some (offset : Int) :=
        ⟨amount.toNat, by rw [Int.toNat_of_nonneg (Int.not_lt.mp negative)]⟩
      rcases isOffset with rfl | rfl <;> exact natural⟩

def preceding (amount : Int) : Except BuilderError FrameBoundary :=
  frameOffset .preceding (.inl rfl) amount

def following (amount : Int) : Except BuilderError FrameBoundary :=
  frameOffset .following (.inr rfl) amount

/-! ### The numeric line -/

/-- Round to 53 significant bits, half to even. -/
def roundToFloat (amount : Nat) : Nat :=
  if amount < 2 ^ 53 then amount
  else
    let unit := 2 ^ (amount.log2 - 52)
    let quotient := amount / unit
    let rest := amount % unit
    if unit < 2 * rest || (2 * rest = unit && quotient % 2 = 1) then (quotient + 1) * unit
    else quotient * unit

/-- `float(amount)` of an integer. -/
def toFloat (amount : Int) : Except BuilderError Int :=
  let rounded := roundToFloat amount.natAbs
  if rounded < 2 ^ 1024 then .ok (amount.sign * rounded) else .error .overflowError

inductive Position where
  | minusInfinity
  | finite (place : Int)
  | infinity
deriving DecidableEq, Repr

/-- `>` on floats. -/
def Position.after : Position → Position → Bool
  | .minusInfinity, _ => false
  | _, .infinity => false
  | .infinity, _ => true
  | _, .minusInfinity => true
  | .finite first, .finite second => second < first

def framePosition (boundary : FrameBoundaryNode) : Except BuilderError Position :=
  match boundary.kind, boundary.amount with
  | .unboundedPreceding, _ => .ok .minusInfinity
  | .preceding, some amount => do return .finite (-(← toFloat amount))
  | .currentRow, _ => .ok (.finite 0)
  | .following, some amount => do return .finite (← toFloat amount)
  | .unboundedFollowing, _ => .ok .infinity
  | .preceding, none | .following, none => .error .assertionError

def validateFrameBounds (start «end» : FrameBoundary) : Except BuilderError Unit := do
  if start.node.kind = .unboundedFollowing then
    throw (.valueError "a window frame cannot start at unbounded following")
  if end.node.kind = .unboundedPreceding then
    throw (.valueError "a window frame cannot end at unbounded preceding")
  let first ← framePosition start.node
  let last ← framePosition end.node
  if first.after last then throw (.valueError "a window frame start cannot follow its end")

/-! ### The builder -/

/-- `WindowSpec`, the fields of its `WindowNode`. -/
structure WindowSpec (V : Type) where
  expression : WindowCall V
  partitionBy : List (Node V) := []
  orderBy : List (OrderNode V) := []
  frame : Option WindowFrameNode := none
  exclusion : Option WindowExclusion := none

/-- The methods of `WindowSpec`. -/
inductive WindowMethod (V : Type) where
  | partitionBy (expressions : List (Node V))
  | orderBy (orders : List (OrderNode V))
  | between (kind : FrameKind) (start «end» : FrameBoundary)
  | exclude (exclusion : WindowExclusion)

namespace WindowSpec

def node (spec : WindowSpec V) : Node V :=
  .window spec.expression spec.partitionBy spec.orderBy spec.frame spec.exclusion

/-- `_with_frame`. -/
def withFrame (spec : WindowSpec V) (kind : FrameKind) (start «end» : FrameBoundary) :
    Except BuilderError (WindowSpec V) := do
  if spec.frame.isSome then throw (.valueError "a window expression can have only one frame")
  validateFrameBounds start «end»
  return { spec with frame := some ⟨kind, start.node, end.node⟩ }

def apply (spec : WindowSpec V) : WindowMethod V → Except BuilderError (WindowSpec V)
  | .partitionBy expressions =>
      if expressions.isEmpty then .error (.valueError "partition_by requires at least one expression")
      else .ok { spec with partitionBy := spec.partitionBy ++ expressions }
  | .orderBy orders =>
      if orders.isEmpty then .error (.valueError "window order_by requires at least one Order")
      else .ok { spec with orderBy := spec.orderBy ++ orders }
  | .between kind start «end» => spec.withFrame kind start «end»
  | .exclude exclusion =>
      if spec.frame.isNone then
        .error (.valueError "window exclusions require an explicit frame")
      else if spec.exclusion.isSome then
        .error (.valueError "a window expression can have only one exclusion")
      else .ok { spec with exclusion := some exclusion }

/-- A window as calls of the methods make it, from `over()` on. -/
def build (expression : WindowCall V) (methods : List (WindowMethod V)) :
    Except BuilderError (WindowSpec V) :=
  methods.foldlM apply { expression }

end WindowSpec

/-! ### PostgreSQL's rules -/

/-- The order of the kinds, whatever the offsets. -/
def BoundaryKind.rank : BoundaryKind → Nat
  | .unboundedPreceding => 0
  | .preceding => 1
  | .currentRow => 2
  | .following => 3
  | .unboundedFollowing => 4

/-- PostgreSQL's rules for a frame over `orderCount` ORDER BY expressions. -/
structure FrameLegal (frame : WindowFrameNode) (orderCount : Nat) : Prop where
  start : frame.start.kind ≠ .unboundedFollowing
  «end» : frame.end.kind ≠ .unboundedPreceding
  ordered : frame.start.kind.rank ≤ frame.end.kind.rank
  range : frame.kind = .range → frameHasOffset frame = true → orderCount = 1
  groups : frame.kind = .groups → 0 < orderCount

/-- The boundary is zero rows away in this direction. -/
def FrameBoundaryNode.IsZero (kind : BoundaryKind) (boundary : FrameBoundaryNode) : Prop :=
  boundary.kind = kind ∧ boundary.amount = some 0

/-- A frame whose boundaries stand at one place of the numeric line and are of kinds in the wrong
order: from `0 following` to the current row or to `0 preceding`, or from the current row to
`0 preceding`. -/
def ZeroOffsetInversion (frame : WindowFrameNode) : Prop :=
  (frame.start.IsZero .following ∧ (frame.end.kind = .currentRow ∨ frame.end.IsZero .preceding)) ∨
    (frame.start.kind = .currentRow ∧ frame.end.IsZero .preceding)

/-! ### Places on the line -/

theorem roundToFloat_pos {amount : Nat} (positive : 0 < amount) : 0 < roundToFloat amount := by
  have unit_le : 2 ^ (amount.log2 - 52) ≤ amount :=
    Nat.le_trans (Nat.pow_le_pow_right (by decide) (Nat.sub_le _ _))
      (Nat.log2_self_le (Nat.pos_iff_ne_zero.mp positive))
  have unit_pos : 0 < 2 ^ (amount.log2 - 52) := Nat.pow_pos (by decide)
  have quotient_pos : 0 < amount / 2 ^ (amount.log2 - 52) := Nat.div_pos unit_le unit_pos
  unfold roundToFloat
  split
  · exact positive
  · dsimp only
    split
    · exact Nat.mul_pos (Nat.succ_pos _) unit_pos
    · exact Nat.mul_pos quotient_pos unit_pos

/-- A natural number becomes zero only if it is zero, and never negative. -/
theorem toFloat_natCast {amount : Nat} {place : Int} (placed : toFloat amount = .ok place) :
    0 ≤ place ∧ (place = 0 → amount = 0) := by
  simp only [toFloat, Int.natAbs_natCast] at placed
  split at placed
  · obtain rfl := Except.ok.inj placed
    rcases Nat.eq_zero_or_pos amount with rfl | positive
    · simp
    · rw [Int.sign_natCast_of_ne_zero (Nat.pos_iff_ne_zero.mp positive), Int.one_mul]
      have := roundToFloat_pos positive
      omega
  · cases placed

theorem toFloat_zero : toFloat 0 = .ok 0 := by
  have zero : roundToFloat 0 = 0 := by simp [roundToFloat]
  have small : (0 : Nat) < 2 ^ 1024 := Nat.pos_of_ne_zero (pow_ne_zero 1024 (by decide))
  rw [toFloat, Int.natAbs_zero, zero, if_pos small]
  rfl

theorem framePosition_preceding {boundary : FrameBoundary} {place : Position}
    (kind : boundary.node.kind = .preceding) (placed : framePosition boundary.node = .ok place) :
    ∃ back : Int, place = .finite (-back) ∧ 0 ≤ back ∧
      (back = 0 → boundary.node.amount = some 0) := by
  have formed := boundary.wellFormed
  rw [FrameBoundaryNode.WellFormed, kind] at formed
  obtain ⟨amount, offset⟩ := formed
  rw [framePosition, kind, offset] at placed
  obtain ⟨back, float, same⟩ := bind_eq_ok.mp placed
  obtain rfl := pure_eq_ok.mp same
  obtain ⟨nonneg, zero⟩ := toFloat_natCast float
  exact ⟨back, rfl, nonneg, fun none => by rw [offset, zero none]; rfl⟩

theorem framePosition_following {boundary : FrameBoundary} {place : Position}
    (kind : boundary.node.kind = .following) (placed : framePosition boundary.node = .ok place) :
    ∃ ahead : Int, place = .finite ahead ∧ 0 ≤ ahead ∧
      (ahead = 0 → boundary.node.amount = some 0) := by
  have formed := boundary.wellFormed
  rw [FrameBoundaryNode.WellFormed, kind] at formed
  obtain ⟨amount, offset⟩ := formed
  rw [framePosition, kind, offset] at placed
  obtain ⟨ahead, float, same⟩ := bind_eq_ok.mp placed
  obtain rfl := pure_eq_ok.mp same
  obtain ⟨nonneg, zero⟩ := toFloat_natCast float
  exact ⟨ahead, rfl, nonneg, fun none => by rw [offset, zero none]; rfl⟩

/-- What the builder's check of two boundaries amounts to. -/
theorem validateFrameBounds_eq_ok {start «end» : FrameBoundary}
    (valid : validateFrameBounds start «end» = .ok ()) :
    start.node.kind ≠ .unboundedFollowing ∧ end.node.kind ≠ .unboundedPreceding ∧
      ∃ first last, framePosition start.node = .ok first ∧ framePosition end.node = .ok last ∧
        first.after last = false := by
  unfold validateFrameBounds at valid
  by_cases atEnd : start.node.kind = .unboundedFollowing
  · simp [atEnd] at valid
  · by_cases atStart : end.node.kind = .unboundedPreceding
    · simp [atEnd, atStart] at valid
    · simp only [atEnd, atStart, if_false, bind_eq_ok] at valid
      obtain ⟨first, placed, last, placed', compared⟩ := valid
      refine ⟨atEnd, atStart, first, last, placed, placed', ?_⟩
      by_cases inverted : first.after last = true
      · simp [inverted] at compared
      · simpa using inverted

/-- Boundaries in order on the line are in the order of their kinds, or zero rows apart. -/
theorem ordered_or_inverted {start «end» : FrameBoundary} {kind : FrameKind}
    (valid : validateFrameBounds start «end» = .ok ()) :
    start.node.kind.rank ≤ end.node.kind.rank ∨
      ZeroOffsetInversion ⟨kind, start.node, end.node⟩ := by
  obtain ⟨notLast, notFirst, first, last, placed, placed', compared⟩ :=
    validateFrameBounds_eq_ok valid
  cases startKind : start.node.kind with
  | unboundedPreceding => exact .inl (Nat.zero_le _)
  | preceding =>
      cases endKind : end.node.kind <;> simp [BoundaryKind.rank]
      exact absurd endKind notFirst
  | currentRow =>
      cases endKind : end.node.kind with
      | unboundedPreceding => exact absurd endKind notFirst
      | preceding =>
          obtain ⟨back, rfl, nonneg, zero⟩ := framePosition_preceding endKind placed'
          rw [framePosition, startKind] at placed
          obtain rfl := Except.ok.inj placed
          simp only [Position.after, decide_eq_false_iff_not, Int.not_lt] at compared
          exact .inr (.inr ⟨startKind, endKind, zero (by omega)⟩)
      | _ => exact .inl (by simp [BoundaryKind.rank])
  | following =>
      obtain ⟨ahead, rfl, nonneg, zero⟩ := framePosition_following startKind placed
      cases endKind : end.node.kind with
      | unboundedPreceding => exact absurd endKind notFirst
      | preceding =>
          obtain ⟨back, rfl, nonneg', zero'⟩ := framePosition_preceding endKind placed'
          simp only [Position.after, decide_eq_false_iff_not, Int.not_lt] at compared
          exact .inr (.inl ⟨⟨startKind, zero (by omega)⟩, .inr ⟨endKind, zero' (by omega)⟩⟩)
      | currentRow =>
          rw [framePosition, endKind] at placed'
          obtain rfl := Except.ok.inj placed'
          simp only [Position.after, decide_eq_false_iff_not, Int.not_lt] at compared
          exact .inr (.inl ⟨⟨startKind, zero (by omega)⟩, .inl endKind⟩)
      | _ => exact .inl (by simp [BoundaryKind.rank])
  | unboundedFollowing => exact absurd startKind notLast

theorem not_ordered_of_inverted {frame : WindowFrameNode} (inverted : ZeroOffsetInversion frame) :
    ¬frame.start.kind.rank ≤ frame.end.kind.rank := by
  rcases inverted with ⟨⟨start, -⟩, current | ⟨last, -⟩⟩ | ⟨start, last, -⟩
  · simp [start, current, BoundaryKind.rank]
  · simp [start, last, BoundaryKind.rank]
  · simp [start, last, BoundaryKind.rank]

/-! ### Windows that were built and rendered -/

/-- The frame of a window came through the builder's check. -/
def WindowSpec.FrameBuilt (spec : WindowSpec V) : Prop :=
  ∀ frame, spec.frame = some frame → ∃ kind start «end»,
    validateFrameBounds start «end» = .ok () ∧ frame = ⟨kind, start.node, end.node⟩

theorem WindowSpec.frameBuilt_apply {spec next : WindowSpec V} {method : WindowMethod V}
    (built : spec.FrameBuilt) (applied : spec.apply method = .ok next) : next.FrameBuilt := by
  cases method with
  | partitionBy expressions =>
      simp only [apply] at applied
      split at applied <;> cases applied
      exact built
  | orderBy orders =>
      simp only [apply] at applied
      split at applied <;> cases applied
      exact built
  | between kind start «end» =>
      simp only [apply, withFrame] at applied
      by_cases framed : spec.frame.isSome
      · simp [framed] at applied
      · simp only [framed, Bool.false_eq_true, if_false, bind_eq_ok, pure_eq_ok] at applied
        obtain ⟨⟨⟩, valid, rfl⟩ := applied
        rintro frame ⟨⟩
        exact ⟨kind, start, «end», valid, rfl⟩
  | exclude exclusion =>
      simp only [apply] at applied
      split at applied
      · cases applied
      · split at applied <;> cases applied
        exact built

/-- Whatever methods are called, the frame came through the builder's check. -/
theorem WindowSpec.frameBuilt_build {expression : WindowCall V} {methods : List (WindowMethod V)}
    {spec : WindowSpec V} (built : WindowSpec.build expression methods = .ok spec) :
    spec.FrameBuilt := by
  have run : ∀ (methods : List (WindowMethod V)) (first : WindowSpec V), first.FrameBuilt →
      methods.foldlM WindowSpec.apply first = .ok spec → spec.FrameBuilt := by
    intro methods
    induction methods with
    | nil =>
        intro first inv done
        obtain rfl := Except.ok.inj done
        exact inv
    | cons method rest ih =>
        intro first inv done
        rw [List.foldlM_cons] at done
        obtain ⟨next, applied, done⟩ := bind_eq_ok.mp done
        exact ih next (frameBuilt_apply inv applied) done
  exact run methods { expression } (by rintro frame ⟨⟩) built

/-- A rendered RANGE frame with an offset has exactly one ORDER BY expression. -/
theorem WindowSpec.range_of_rendered [PyObject V] {dialect : Dialect} {spec : WindowSpec V}
    {before : List V} {result : Text × List V}
    (rendered : compileNode dialect spec.node before = .ok result) {frame : WindowFrameNode}
    (framed : spec.frame = some frame) (range : frame.kind = .range)
    (offset : frameHasOffset frame = true) : spec.orderBy.length = 1 := by
  rw [node, compileNode] at rendered
  rw [framed] at rendered
  simp only [Option.isNone_some, Bool.and_false, Bool.false_eq_true, if_false,
    state_bind_eq_ok, state_lift_eq_ok] at rendered
  obtain ⟨_, _, -, _, _, -, _, _, ⟨clause, -⟩, -⟩ := rendered
  simp only [frameClause, bind_eq_ok] at clause
  obtain ⟨text, compiled, -⟩ := clause
  by_cases single : spec.orderBy.length = 1
  · exact single
  · simp [compileWindowFrame, range, offset, single] at compiled

/-- The frame of a window that the builder and the renderer accept is legal for PostgreSQL exactly
when its kinds are not inverted at zero rows and, in GROUPS mode, it is ordered at all. -/
theorem frameLegal_iff [PyObject V] {expression : WindowCall V} {methods : List (WindowMethod V)}
    {spec : WindowSpec V} (built : WindowSpec.build expression methods = .ok spec)
    {dialect : Dialect} {before : List V} {result : Text × List V}
    (rendered : compileNode dialect spec.node before = .ok result) {frame : WindowFrameNode}
    (framed : spec.frame = some frame) :
    FrameLegal frame spec.orderBy.length ↔
      ¬ZeroOffsetInversion frame ∧ (frame.kind = .groups → spec.orderBy ≠ []) := by
  obtain ⟨kind, start, «end», valid, rfl⟩ := WindowSpec.frameBuilt_build built frame framed
  constructor
  · intro legal
    refine ⟨fun inverted => not_ordered_of_inverted inverted legal.ordered, fun groups => ?_⟩
    exact List.length_pos_iff.mp (legal.groups groups)
  · rintro ⟨upright, ordered⟩
    obtain ⟨notLast, notFirst, -⟩ := validateFrameBounds_eq_ok valid
    refine ⟨notLast, notFirst, (ordered_or_inverted valid).resolve_right upright, ?_, ?_⟩
    · exact spec.range_of_rendered rendered framed
    · exact fun groups => List.length_pos_iff.mpr (ordered groups)

/-! ### A frame from zero rows ahead to the current row -/

/-- `following(0)`. -/
def zeroFollowing : FrameBoundary :=
  ⟨{ kind := .following, amount := some 0 }, ⟨0, rfl⟩⟩

/-- `sum(t.x).over().rows_between(following(0), current_row())`. -/
def invertedWindow : WindowSpec Int :=
  { expression := .aggregate .sum [.column "t" "x"] none
    frame := some ⟨.rows, zeroFollowing.node, currentRow.node⟩ }

def invertedQuery : QueryNode Int :=
  .select { selections := [invertedWindow.node], fromSource := some (.table { name := "t" }) }

theorem invertedWindow_built :
    WindowSpec.build (.aggregate .sum [.column "t" "x"] none)
      [.between .rows zeroFollowing currentRow] = .ok invertedWindow := by
  simp [WindowSpec.build, WindowSpec.apply, WindowSpec.withFrame, validateFrameBounds,
    framePosition, zeroFollowing, currentRow, toFloat_zero, Position.after, bind, Except.bind, pure,
    Except.pure, invertedWindow]

theorem invertedWindow_rendered :
    ∃ result, compileNode postgres invertedWindow.node [] = .ok result := by
  unfold invertedWindow WindowSpec.node
  simp only [compileNode, compileNodes, compileOrders, compileWindowCall, compileOption]
  exact ⟨_, rfl⟩

/-- Builder, validator and renderer accept it, and PostgreSQL does not. -/
theorem invertedWindow_illegal :
    following 0 = .ok zeroFollowing ∧
      WindowSpec.build (.aggregate .sum [.column "t" "x"] none)
        [.between .rows zeroFollowing currentRow] = .ok invertedWindow ∧
      Accepted invertedQuery postgres ∧
      (∃ compiled, renderQuery invertedQuery postgres = .ok compiled) ∧
      ∃ frame, invertedWindow.frame = some frame ∧ ¬FrameLegal frame invertedWindow.orderBy.length := by
  refine ⟨rfl, invertedWindow_built, by decide +kernel, ?_, _, rfl, fun legal => ?_⟩
  · unfold renderQuery invertedQuery invertedWindow WindowSpec.node
    simp only [renderStatement, compileSelect, compileCtes, compileNodes, compileNode, compileFrom,
      compileSource, compileJoins, compileOption, compileOrders, compileCompounds, compileWindowCall]
    exact ⟨_, rfl⟩
  · exact absurd legal.ordered (by decide)

theorem frameLegal_iff_invertedWindow :
    FrameLegal ⟨.rows, zeroFollowing.node, currentRow.node⟩ 0 ↔
      ¬ZeroOffsetInversion ⟨.rows, zeroFollowing.node, currentRow.node⟩ ∧
        (FrameKind.rows = .groups → invertedWindow.orderBy ≠ []) := by
  obtain ⟨result, rendered⟩ := invertedWindow_rendered
  exact frameLegal_iff invertedWindow_built rendered rfl

end Relq
