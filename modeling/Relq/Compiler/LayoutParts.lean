/-
Module: Relq.Compiler.LayoutParts
Layer: Compiler
Purpose: The layout of a term is assembled from the layouts of its rendered parts in their order,
  with two exceptions: a bound value is a hole, and the two terms of `lateParts` are assembled from
  a late first half and a second half.
Imports: Relq.Compiler.LayoutSound, Relq.Compiler.Parts
Trusted boundary: human-reviewed spec (lateParts)
Main exports: Lexeme.ordinal, layoutTerm, lateParts, Twofold, Built
-/
import Relq.Compiler.LayoutSound
import Relq.Compiler.Parts

namespace Relq

open Templates

variable {V : Type}

/-- The number of a placeholder. -/
def Lexeme.ordinal : Lexeme → Option Nat
  | .placeholder ordinal => some ordinal
  | _ => none

theorem ordinal_placeholder (k : Nat) : (Lexeme.placeholder k).ordinal = some k := rfl

/-! ### Text without placeholders -/

def Bare (text : Text) : Prop :=
  ∀ item ∈ text, item.ordinal = none

@[simp] theorem bare_nil : Bare [] := fun _ member => absurd member List.not_mem_nil

@[simp] theorem bare_cons {item : Lexeme} {text : Text} :
    Bare (item :: text) ↔ item.ordinal = none ∧ Bare text :=
  List.forall_mem_cons

@[simp] theorem bare_append {first second : Text} :
    Bare (first ++ second) ↔ Bare first ∧ Bare second :=
  List.forall_mem_append

@[simp] theorem bare_ite {c : Prop} [Decidable c] {first second : Text} (bare : Bare first)
    (bare' : Bare second) : Bare (if c then first else second) := by
  split
  · exact bare
  · exact bare'

theorem bare_spaces {texts : List Text} (each : ∀ text ∈ texts, Bare text) : Bare (spaces texts) := by
  induction texts with
  | nil => exact bare_nil
  | cons text rest ih =>
      have first := each text List.mem_cons_self
      have later := ih fun other member => each other (List.mem_cons_of_mem _ member)
      cases rest with
      | nil => exact first
      | cons next rest => simp [spaces, first, later, Lexeme.ordinal]

theorem bare_commas {texts : List Text} (each : ∀ text ∈ texts, Bare text) : Bare (commas texts) := by
  induction texts with
  | nil => exact bare_nil
  | cons text rest ih =>
      have first := each text List.mem_cons_self
      have later := ih fun other member => each other (List.mem_cons_of_mem _ member)
      cases rest with
      | nil => exact first
      | cons next rest => simp [commas, first, later, Lexeme.ordinal]

@[simp] theorem bare_words (keywords : List String) : Bare (words keywords) := by
  refine bare_spaces fun text member => ?_
  obtain ⟨keyword, -, rfl⟩ := List.mem_map.mp member
  simp [Lexeme.ordinal]

@[simp] theorem bare_spaced (keywords : List String) : Bare (spaced keywords) := by
  simp [spaced, Lexeme.ordinal]

@[simp] theorem bare_identifiers (names : List String) : Bare (identifiers names) := by
  refine bare_commas fun text member => ?_
  obtain ⟨name, -, rfl⟩ := List.mem_map.mp member
  simp [Lexeme.ordinal]

@[simp] theorem bare_parens {text : Text} : Bare (parens text) ↔ Bare text := by
  simp [parens, Lexeme.ordinal]

theorem bare_operation {left operator right : Text} :
    Bare (operation left operator right) ↔ Bare left ∧ Bare operator ∧ Bare right := by
  simp [operation, Lexeme.ordinal]

theorem bare_lexeme (operator : BinaryOperator) : Bare [operator.lexeme] := by
  cases operator <;> simp [BinaryOperator.lexeme, Lexeme.ordinal]

theorem bare_clockText (kind : ClockKind) : Bare (clockText kind) := by
  cases kind <;> simp [clockText, call, commas, Lexeme.ordinal]

theorem bare_boundary (boundary : FrameBoundaryNode) : Bare (compileFrameBoundary boundary) := by
  unfold compileFrameBoundary
  split <;> simp [Lexeme.ordinal]

theorem bare_frame (frame : Option WindowFrameNode) (orderCount : Nat)
    (exclusion : Option WindowExclusion) :
    ∀ text ∈ (frameClause frame orderCount exclusion).toOption.getD [], Bare text := by
  intro text member
  cases frame with
  | none => simp [frameClause, Except.toOption] at member
  | some frame =>
      simp only [frameClause, compileWindowFrame] at member
      split at member
      · simp [Except.toOption, bind, Except.bind] at member
      · cases exclusion <;>
          simp [Except.toOption, bind, Except.bind, pure, Except.pure] at member <;>
          simp [member, bare_boundary, Lexeme.ordinal]

theorem bare_getD {text : Except PyError Text} (bare : ∀ result, text = .ok result → Bare result) :
    Bare (text.toOption.getD []) := by
  cases text with
  | error error => exact bare_nil
  | ok result => exact bare result rfl

theorem bare_table (dialect : Dialect) (table : TableSourceNode) :
    Bare ((compileTable dialect table).toOption.getD []) := by
  obtain ⟨name, aliasName, schema⟩ := table
  unfold compileTable
  cases schema with
  | none => cases aliasName <;> simp [Except.toOption, bind, Except.bind, pure, Except.pure, Lexeme.ordinal]
  | some schema =>
      by_cases supported : dialect.supportsSchemaQualifiedTables = true
      · cases aliasName <;>
          simp [supported, Except.toOption, bind, Except.bind, pure, Except.pure, Lexeme.ordinal]
      · simp [supported, Except.toOption, bind, Except.bind]

theorem bare_limit (dialect : Dialect) (limit offset : Option Int) :
    Bare (limitText dialect limit offset) := by
  unfold limitText
  cases limit <;> cases offset <;> simp [Lexeme.ordinal]

theorem bare_lock (lock : LockClauseNode) : Bare (lockText lock) := by
  unfold lockText
  cases lock.wait <;> simp [Lexeme.ordinal]

theorem bare_locks (locks : List LockClauseNode) : Bare (locks.flatMap lockText) := by
  intro item member
  obtain ⟨lock, -, inside⟩ := List.mem_flatMap.mp member
  exact bare_lock lock item inside

theorem bare_order (direction : Direction) (nulls : Option NullPlacement) :
    Bare (orderText [] direction nulls) := by
  cases nulls <;> simp [orderText, Lexeme.ordinal]

theorem bare_constant [PyObject V] {value : V} {text : Text} (done : constant value = .ok text) :
    Bare text := by
  unfold constant at done
  split at done
  · cases done; simp [Lexeme.ordinal]
  · cases done; simp [Lexeme.ordinal]
  · cases done; simp [Lexeme.ordinal]
  · split at done
    · cases done
    · cases done; simp [Lexeme.ordinal]
  · cases done

mutual

theorem bare_indexPredicate [PyObject V] : (node : Node V) → (text : Text) →
    compileIndexPredicate node = .ok text → Bare text
  | .column source name, text, done => by
      rw [compileIndexPredicate] at done
      cases done
      simp [Lexeme.ordinal]
  | .value value, text, done => by
      rw [compileIndexPredicate] at done
      exact bare_constant done
  | .binary left operator right, text, done => by
      rw [compileIndexPredicate] at done
      split at done
      · obtain ⟨first, doneFirst, done⟩ := Outcome.bind_eq_ok.mp done
        obtain ⟨second, doneSecond, done⟩ := Outcome.bind_eq_ok.mp done
        rw [← Outcome.pure_eq_ok.mp done, bare_operation]
        exact ⟨bare_indexPredicate left first doneFirst, bare_lexeme operator,
          bare_indexPredicate right second doneSecond⟩
      · cases done
  | .unary operator operand, text, done => by
      rw [compileIndexPredicate] at done
      split at done
      · obtain ⟨inner, doneInner, done⟩ := Outcome.bind_eq_ok.mp done
        rw [← Outcome.pure_eq_ok.mp done]
        simp [bare_indexPredicate operand inner doneInner, Lexeme.ordinal]
      · cases done
  | .inNode expression (.nodes values) negated, text, done => by
      rw [compileIndexPredicate] at done
      obtain ⟨items, doneItems, done⟩ := Outcome.bind_eq_ok.mp done
      obtain ⟨inner, doneInner, done⟩ := Outcome.bind_eq_ok.mp done
      rw [← Outcome.pure_eq_ok.mp done, bare_operation]
      refine ⟨bare_indexPredicate expression inner doneInner, by simp, ?_⟩
      exact bare_parens.mpr (bare_commas (bare_indexPredicates values items doneItems))
  | .between expression lower upper negated, text, done => by
      rw [compileIndexPredicate] at done
      obtain ⟨inner, doneInner, done⟩ := Outcome.bind_eq_ok.mp done
      obtain ⟨low, doneLow, done⟩ := Outcome.bind_eq_ok.mp done
      obtain ⟨high, doneHigh, done⟩ := Outcome.bind_eq_ok.mp done
      rw [← Outcome.pure_eq_ok.mp done, bare_operation]
      refine ⟨bare_indexPredicate expression inner doneInner, by simp, ?_⟩
      simp [bare_indexPredicate lower low doneLow, bare_indexPredicate upper high doneHigh]
  | .temporalClock _, _, done | .temporalMakeDate _ _ _, _, done
  | .temporalMakeTime _ _ _, _, done | .temporalMakeTimestamp _ _ _ _ _ _, _, done
  | .temporalMakeTimestamptz _ _ _ _ _ _ _, _, done | .temporalMakeInterval _, _, done
  | .temporalEpoch _, _, done | .temporalArithmetic _ _ _, _, done
  | .temporalDifference _ _, _, done | .temporalIntervalUnary _, _, done
  | .temporalIntervalScale _ _ _, _, done | .temporalTimezone _ _, _, done
  | .temporalExtract _ _, _, done | .temporalTrunc _ _, _, done
  | .temporalTruncTimestamptz _ _ _, _, done | .temporalBin _ _ _, _, done
  | .temporalAge _ _, _, done | .temporalOverlaps _ _ _ _, _, done
  | .temporalJustify _ _, _, done | .function _ _, _, done | .case _ _, _, done
  | .aggregate _ _ _, _, done | .window _ _ _ _ _, _, done | .aliased _ _, _, done
  | .nullableResult _, _, done | .star, _, done | .inNode _ (.select _) _, _, done
  | .scalarSubquery _, _, done | .exists _ _, _, done | .excluded _ _, _, done
  | .jsonText _ _, _, done | .regexMatch _ _ _, _, done | .uuidCast _, _, done => by
      simp [compileIndexPredicate] at done

theorem bare_indexPredicates [PyObject V] : (nodes : List (Node V)) → (texts : List Text) →
    compileIndexPredicates nodes = .ok texts → ∀ text ∈ texts, Bare text
  | [], texts, done => by
      rw [compileIndexPredicates] at done
      cases done
      simp
  | node :: rest, texts, done => by
      rw [compileIndexPredicates] at done
      obtain ⟨first, doneFirst, done⟩ := Outcome.bind_eq_ok.mp done
      obtain ⟨later, doneLater, done⟩ := Outcome.bind_eq_ok.mp done
      rw [← Outcome.pure_eq_ok.mp done]
      exact List.forall_mem_cons.mpr
        ⟨bare_indexPredicate node first doneFirst, bare_indexPredicates rest later doneLater⟩

end

theorem bare_target [PyObject V] (columns : List String) (targetWhere : Option (Node V)) :
    Bare ((conflictTarget columns targetWhere).toOption.getD []) := by
  refine bare_getD fun text done => ?_
  unfold conflictTarget at done
  cases targetWhere with
  | none =>
      cases done
      cases columns <;> simp [Lexeme.ordinal]
  | some predicate =>
      dsimp only at done
      split at done
      · cases done
      · obtain ⟨inner, doneInner, done⟩ := Outcome.bind_eq_ok.mp done
        rw [← Outcome.pure_eq_ok.mp done]
        have bare := bare_indexPredicate predicate inner doneInner
        cases columns <;> simp [bare, Lexeme.ordinal]

/-! ### Assembly -/

/-- The layout of a term. -/
def layoutTerm [PyObject V] (dialect : Dialect) : Term V → Layout V
  | .expression node => layoutNode dialect node
  | .statement query => layoutStatement dialect query

/-- The parts of a node's text of which the first is rendered after the second. -/
def lateParts : Node V → Option (List (Term V) × List (Term V))
  | .window call partitionBy orderBy _ _ =>
      some ([.expression call.toNode],
        partitionBy.map .expression ++ orderBy.map .order)
  | .temporalArithmetic timestamp _ interval => some ([.expression timestamp], [.expression interval])
  | _ => none

/-- The late parts of a node and the other ones are its rendered parts. -/
theorem renderedParts_late {node : Node V} {first second : List (Term V)}
    (parts : lateParts node = some (first, second)) :
    renderedParts (.expression node) = first ++ second := by
  cases node with
  | window call partitionBy orderBy frame exclusion =>
      cases parts
      simp [renderedParts, children, Node.nestedSelect, Function.comp_def]
  | temporalArithmetic timestamp operator interval =>
      cases parts
      simp [renderedParts, children, Node.nestedSelect]
  | _ => simp [lateParts] at parts

/-- The values bound in the late part of a node are bound after those of its other parts. -/
def Twofold (node : Node V) : Prop :=
  ∃ first second, lateParts node = some (first, second) ∧ (∃ part ∈ first, Binds part) ∧
    ∃ part ∈ second, Binds part

theorem insertParts_default {source : Option (InsertSourceNode V)} {conflict : Option (ConflictNode V)}
    (defaulted : source.any (·.isDefaultValues) = true) :
    insertParts source conflict = source.toList.flatMap insertSourceParts := by
  cases source with
  | none => cases defaulted
  | some given => cases given <;> simp [InsertSourceNode.isDefaultValues, insertParts] at defaulted ⊢

theorem insertParts_given {source : Option (InsertSourceNode V)} {conflict : Option (ConflictNode V)}
    (given : ¬source.any (·.isDefaultValues) = true) :
    insertParts source conflict = source.toList.flatMap insertSourceParts ++
      conflict.toList.flatMap fun conflict =>
        if conflict.action = "nothing" then []
        else conflict.updateValues.map .named ++ conflict.updateWhere.toList.map .expression := by
  cases source with
  | none => rfl
  | some source => cases source <;> simp [InsertSourceNode.isDefaultValues, insertParts] at given ⊢

abbrev Built : List (Layout V) → Layout V → Prop :=
  Template.Assembled Lexeme.ordinal

abbrev BuiltEach : List (Layout V) → List (Layout V) → Prop :=
  Template.AssembledEach Lexeme.ordinal

section Assembly

variable {pieces pieces' : List (Layout V)} {layout layout' : Layout V} {layouts : List (Layout V)}

theorem built_fixed {text : Text} (bare : Bare text) : Built ([] : List (Layout V)) (.fixed text) :=
  .fixed bare

theorem built_add (first : Built pieces layout) (second : Built pieces' layout') :
    Built (pieces ++ pieces') (layout ++ layout') :=
  .append first second

theorem built_before (text : Text) (bare : Bare text) (inner : Built pieces layout) :
    Built pieces (.fixed text ++ layout) :=
  built_add (built_fixed bare) inner

theorem built_behind (inner : Built pieces layout) (text : Text) (bare : Bare text) :
    Built pieces (layout ++ .fixed text) :=
  (built_add inner (built_fixed bare)).of_eq (List.append_nil _)

theorem built_parens (inner : Built pieces layout) : Built pieces (Layout.parens layout) :=
  built_behind (built_before _ (by simp [Lexeme.ordinal]) inner) _ (by simp [Lexeme.ordinal])

theorem built_commas (each : BuiltEach pieces layouts) : Built pieces (Layout.commas layouts) := by
  rw [Layout.commas_eq]
  exact each.separated (by simp [Lexeme.ordinal])

theorem built_spaces (each : BuiltEach pieces layouts) : Built pieces (Layout.spaces layouts) := by
  rw [Layout.spaces_eq]
  exact each.separated (by simp [Lexeme.ordinal])

theorem built_call (name : String) (each : BuiltEach pieces layouts) :
    Built pieces (Layout.call name layouts) :=
  built_before _ (by simp [Lexeme.ordinal]) (built_parens (built_commas each))

theorem built_operation (left : Built pieces layout) (operator : Text) (bare : Bare operator)
    (right : Built pieces' layout') :
    Built (pieces ++ pieces') (Layout.operation layout operator layout') :=
  built_parens (built_add (built_behind left _ (by simp [bare, Lexeme.ordinal])) right)

theorem built_castInterval (interval : Node V) (inner : Built pieces layout) :
    Built pieces (Layout.castInterval interval layout) := by
  unfold Layout.castInterval
  split
  · exact built_behind inner _ (by simp [Lexeme.ordinal])
  · exact inner

theorem built_aggregate (name : AggregateName) (each : BuiltEach pieces layouts)
    (filter : Option (Layout V)) :
    Built (pieces ++ filter.toList) (Layout.aggregate name layouts filter) := by
  cases filter with
  | none => exact (built_call name.text each).of_eq (List.append_nil _).symm
  | some layout =>
      exact built_add (built_behind (built_call name.text each) _ (by simp))
        (built_parens (built_before _ (by simp [Lexeme.ordinal]) (.piece layout)))

theorem built_clause (keywords : List String) (each : BuiltEach pieces layouts) :
    BuiltEach pieces (Layout.clause keywords layouts) := by
  cases each with
  | nil => exact .nil
  | cons first others =>
      refine (Template.AssembledEach.cons (built_before _ ?_ (built_commas (.cons first others))) .nil).of_eq
        (List.append_nil _)
      simp [Lexeme.ordinal]

theorem built_optional (keywords : List String) (slot : Option (Layout V)) :
    Built slot.toList (Layout.optional keywords slot) := by
  cases slot with
  | none => exact built_fixed bare_nil
  | some layout => exact built_before _ (by simp) (.piece layout)

theorem built_listed (keywords : List String) (each : BuiltEach pieces layouts) :
    Built pieces (Layout.listed keywords layouts) := by
  cases each with
  | nil => exact built_fixed bare_nil
  | cons first others => exact built_before _ (by simp) (built_commas (.cons first others))

theorem built_frame (frame : Option WindowFrameNode) (orderCount : Nat)
    (exclusion : Option WindowExclusion) :
    BuiltEach ([] : List (Layout V)) (Layout.frame frame orderCount exclusion) := by
  have bare := bare_frame frame orderCount exclusion
  unfold Layout.frame
  generalize (frameClause frame orderCount exclusion).toOption.getD [] = texts at bare
  induction texts with
  | nil => exact .nil
  | cons text rest ih =>
      exact .cons (built_fixed (bare text List.mem_cons_self))
        (ih fun other member => bare other (List.mem_cons_of_mem _ member))

end Assembly

end Relq
