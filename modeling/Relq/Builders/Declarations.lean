/-
Module: Relq.Builders.Declarations
Layer: Builders
Purpose: The columns a relation class declares (`_declared_columns` of `expressions/relations.py`),
  against Python's attribute lookup on the class. The walk keeps, for each attribute, the most
  derived column any class of the MRO declares under it, and collects the SQL names of all
  declarations, also of those that a subclass overrides or masks.
Imports: Relq.Library.Dictionaries, Mathlib.Data.Finset.Card
Trusted boundary: human-reviewed spec (Member, Namespace, declaredColumns, mroLookup, Clash,
  FollowsLookup)
Main exports: declaredColumns, mroLookup, masked, stale, surplus, followsLookup_iff
-/
import Relq.Library.Dictionaries
import Mathlib.Data.Finset.Card

namespace Relq

open Dictionaries

variable {N : Type}

/-! ### Relation classes -/

/-- A `Column` object: its node and the SQL name, which is empty where neither `name=...` nor
`__set_name__` gave one. -/
structure Column (N : Type) where
  node : N
  name : String
deriving DecidableEq, Repr

/-- `Column.declared_name`. -/
def Column.declaredName (column : Column N) (attr : String) : String :=
  if column.name = "" then attr else column.name

/-- What a class body binds to an attribute. -/
inductive Member (N : Type) where
  | column (column : Column N)
  | other
deriving DecidableEq, Repr

def Member.column? : Member N → Option (Column N)
  | .column declared => some declared
  | .other => none

theorem Member.column?_eq_some {member : Member N} {column : Column N} :
    member.column? = some column ↔ member = .column column := by
  cases member <;> simp [Member.column?]

/-- `vars(base)`: the members of one class, under distinct attr names. -/
structure Namespace (N : Type) where
  items : List (String × Member N)
  distinct : (items.map (·.1)).Nodup

/-- Python's attribute lookup on a class: the first class of the MRO that binds the name. -/
def mroLookup (mro : List (Namespace N)) (attr : String) : Option (Member N) :=
  mro.findSome? fun base => base.items.lookup attr

/-! ### The walk -/

/-- The state of the walk: `declared` and `names`. -/
structure Declared (N : Type) where
  columns : List (String × Column N) := []
  names : Finset String := ∅

def Declared.visit (declared : Declared N) : String × Member N → Declared N
  | (attr, .column column) =>
      { columns := set declared.columns attr column,
        names := insert (column.declaredName attr) declared.names }
  | (_, .other) => declared

def walkDeclarations (mro : List (Namespace N)) : Declared N :=
  mro.reverse.foldl (fun declared base => base.items.foldl Declared.visit declared) {}

/-- The `TypeError` of two equal SQL names. -/
inductive DeclarationError where
  | duplicateColumnNames
deriving DecidableEq, Repr

/-- `_declared_columns`. -/
def declaredColumns (mro : List (Namespace N)) :
    Except DeclarationError (List (String × Column N)) :=
  let declared := walkDeclarations mro
  if declared.names.card ≠ declared.columns.length then .error .duplicateColumnNames
  else .ok declared.columns

/-! ### What the walk computes -/

/-- The columns of one class, in the order of its body. -/
def Namespace.columns (base : Namespace N) : List (String × Column N) :=
  base.items.filterMap fun item => item.2.column?.map (item.1, ·)

/-- Every column declaration of the MRO in the order of the walk, overridden ones too. -/
def declarations (mro : List (Namespace N)) : List (String × Column N) :=
  mro.reverse.flatMap Namespace.columns

/-- The SQL names of the declarations. -/
def declaredNames (mro : List (Namespace N)) : Finset String :=
  ((declarations mro).map fun entry => entry.2.declaredName entry.1).toFinset

/-- The attributes that some class of the MRO declares as a column. -/
def columnAttributes (mro : List (Namespace N)) : Finset String :=
  ((declarations mro).map (·.1)).toFinset

theorem visit_all (items : List (String × Member N)) (declared : Declared N) :
    items.foldl Declared.visit declared =
      let columns := items.filterMap fun item => item.2.column?.map (item.1, ·)
      { columns := columns.foldl (fun entries write => set entries write.1 write.2) declared.columns,
        names := (columns.map fun entry => entry.2.declaredName entry.1).toFinset ∪ declared.names } := by
  induction items generalizing declared with
  | nil => simp
  | cons item rest ih =>
      obtain ⟨attr, member⟩ := item
      rw [List.foldl_cons, ih]
      cases member with
      | other => simp [Declared.visit, Member.column?]
      | column column => simp [Declared.visit, Member.column?]

theorem visit_classes (bases : List (Namespace N)) (declared : Declared N) :
    bases.foldl (fun declared base => base.items.foldl Declared.visit declared) declared =
      let columns := bases.flatMap Namespace.columns
      { columns := columns.foldl (fun entries write => set entries write.1 write.2) declared.columns,
        names := (columns.map fun entry => entry.2.declaredName entry.1).toFinset ∪ declared.names } := by
  induction bases generalizing declared with
  | nil => simp
  | cons base rest ih =>
      rw [List.foldl_cons, ih, visit_all]
      simp [Namespace.columns, Finset.union_left_comm]

theorem walkDeclarations_eq (mro : List (Namespace N)) :
    walkDeclarations mro =
      { columns := written (declarations mro), names := declaredNames mro } := by
  rw [walkDeclarations, visit_classes]
  simp [declarations, declaredNames, written]

theorem length_written_declarations (mro : List (Namespace N)) :
    (written (declarations mro)).length = (columnAttributes mro).card := by
  rw [columnAttributes, ← List.length_map (fun entry : String × Column N => entry.1),
    ← List.toFinset_card_of_nodup (nodup_written _)]
  congr 1
  ext attr
  rw [List.mem_toFinset, List.mem_toFinset, keys_written]

theorem declaredColumns_eq (mro : List (Namespace N)) :
    declaredColumns mro =
      if (declaredNames mro).card ≠ (columnAttributes mro).card then .error .duplicateColumnNames
      else .ok (written (declarations mro)) := by
  rw [declaredColumns, walkDeclarations_eq, length_written_declarations]

/-! ### Against attribute lookup -/

theorem Namespace.mem_columns {base : Namespace N} {attr : String} {column : Column N} :
    (attr, column) ∈ base.columns ↔ (attr, .column column) ∈ base.items := by
  simp only [Namespace.columns, List.mem_filterMap, Option.map_eq_some_iff, Prod.mk.injEq,
    Member.column?_eq_some]
  constructor
  · rintro ⟨⟨_, _⟩, member, _, rfl, rfl, rfl⟩
    exact member
  · intro member
    exact ⟨_, member, column, rfl, rfl, rfl⟩

theorem Namespace.nodup_columns (base : Namespace N) : (base.columns.map (·.1)).Nodup := by
  have kept : ∀ items : List (String × Member N),
      ((items.filterMap fun item => item.2.column?.map (item.1, ·)).map (·.1)).Sublist
        (items.map (·.1)) := by
    intro items
    induction items with
    | nil => exact List.Sublist.slnil
    | cons item rest ih =>
        obtain ⟨attr, member⟩ := item
        cases member with
        | column column => simpa [Member.column?] using ih
        | other => simpa [Member.column?] using ih.cons attr
  exact (kept base.items).nodup base.distinct

/-- Within one class, the column an attribute is bound to. -/
theorem Namespace.lookup_columns (base : Namespace N) (attr : String) :
    base.columns.reverse.lookup attr = (base.items.lookup attr).bind Member.column? := by
  have distinct : (base.columns.reverse.map (·.1)).Nodup := by
    rw [List.map_reverse]
    exact List.nodup_reverse.mpr base.nodup_columns
  ext column
  rw [← mem_iff_lookup distinct, List.mem_reverse, Namespace.mem_columns,
    mem_iff_lookup base.distinct, Option.bind_eq_some_iff]
  constructor
  · intro bound
    exact ⟨_, bound, rfl⟩
  · rintro ⟨member, bound, isColumn⟩
    rwa [← Member.column?_eq_some.mp isColumn]

/-- The walk finds the most derived column declaration of an attribute. -/
theorem lookup_declarations (mro : List (Namespace N)) (attr : String) :
    (written (declarations mro)).lookup attr =
      mro.findSome? fun base => (base.items.lookup attr).bind Member.column? := by
  rw [lookup_written, declarations, List.reverse_flatMap, List.reverse_reverse, lookup_flatMap]
  congr 1
  funext base
  exact base.lookup_columns attr

/-- A column that attribute lookup finds is the one the walk keeps. -/
theorem lookup_declarations_of_mroLookup {mro : List (Namespace N)} {attr : String}
    {column : Column N} (found : mroLookup mro attr = some (.column column)) :
    (written (declarations mro)).lookup attr = some column := by
  rw [lookup_declarations]
  induction mro with
  | nil => cases found
  | cons base rest ih =>
      rw [mroLookup, List.findSome?_cons] at found
      rw [List.findSome?_cons]
      cases bound : base.items.lookup attr with
      | none =>
          rw [bound] at found
          exact ih found
      | some member =>
          rw [bound] at found
          cases found
          rfl

/-! ### Effective columns -/

/-- Attribute lookup yields this column. -/
def Effective (mro : List (Namespace N)) (attr : String) (column : Column N) : Prop :=
  mroLookup mro attr = some (.column column)

/-- Two effective columns have one SQL name. -/
def Clash (mro : List (Namespace N)) : Prop :=
  ∃ attr other column twin, attr ≠ other ∧ Effective mro attr column ∧ Effective mro other twin ∧
    column.declaredName attr = twin.declaredName other

/-- Discovery follows lookup: what is returned are the effective columns, and duplicates are
reported exactly where two effective columns share a name. -/
def FollowsLookup (mro : List (Namespace N)) : Prop :=
  (∀ columns, declaredColumns mro = .ok columns →
    (columns.map (·.1)).Nodup ∧
      ∀ attr column, (attr, column) ∈ columns ↔ Effective mro attr column) ∧
  (declaredColumns mro = .error .duplicateColumnNames ↔ Clash mro)

/-- The attributes with an effective column. -/
def effectiveAttributes (mro : List (Namespace N)) : Finset String :=
  (columnAttributes mro).filter fun attr => ((mroLookup mro attr).bind Member.column?).isSome

/-- The SQL name of the effective column of an attribute. -/
def effectiveName (mro : List (Namespace N)) (attr : String) : String :=
  match (mroLookup mro attr).bind Member.column? with
  | some column => column.declaredName attr
  | none => attr

def effectiveNames (mro : List (Namespace N)) : Finset String :=
  (effectiveAttributes mro).image (effectiveName mro)

/-- The attributes that a class declares as a column and a more derived class binds to something
else. -/
def masked (mro : List (Namespace N)) : Finset String :=
  columnAttributes mro \ effectiveAttributes mro

/-- The SQL names that are declared and that no effective column has. -/
def stale (mro : List (Namespace N)) : Finset String :=
  declaredNames mro \ effectiveNames mro

/-- How many more effective columns there are than SQL names they have. -/
def surplus (mro : List (Namespace N)) : Nat :=
  (effectiveAttributes mro).card - (effectiveNames mro).card

theorem Effective.mem_written {mro : List (Namespace N)} {attr : String} {column : Column N}
    (effective : Effective mro attr column) : (attr, column) ∈ written (declarations mro) :=
  (mem_iff_lookup (nodup_written _)).mpr (lookup_declarations_of_mroLookup effective)

theorem Effective.name {mro : List (Namespace N)} {attr : String} {column : Column N}
    (effective : Effective mro attr column) :
    effectiveName mro attr = column.declaredName attr := by
  rw [effectiveName, effective]
  rfl

theorem mem_columnAttributes {mro : List (Namespace N)} {attr : String} :
    attr ∈ columnAttributes mro ↔ ∃ column, (attr, column) ∈ written (declarations mro) := by
  rw [columnAttributes, List.mem_toFinset, ← keys_written]
  simp

theorem mem_effectiveAttributes {mro : List (Namespace N)} {attr : String} :
    attr ∈ effectiveAttributes mro ↔ ∃ column, Effective mro attr column := by
  rw [effectiveAttributes, Finset.mem_filter, Option.isSome_iff_exists]
  constructor
  · rintro ⟨_, column, found⟩
    obtain ⟨member, bound, isColumn⟩ := Option.bind_eq_some_iff.mp found
    exact ⟨column, bound.trans (congrArg some (Member.column?_eq_some.mp isColumn))⟩
  · rintro ⟨column, effective⟩
    refine ⟨mem_columnAttributes.mpr ⟨column, effective.mem_written⟩, column, ?_⟩
    rw [effective]
    rfl

theorem effectiveAttributes_subset (mro : List (Namespace N)) :
    effectiveAttributes mro ⊆ columnAttributes mro :=
  Finset.filter_subset _ _

theorem effectiveNames_subset (mro : List (Namespace N)) :
    effectiveNames mro ⊆ declaredNames mro := by
  intro name isEffective
  obtain ⟨attr, member, rfl⟩ := Finset.mem_image.mp isEffective
  obtain ⟨column, effective⟩ := mem_effectiveAttributes.mp member
  have declared : (attr, column) ∈ declarations mro := mem_of_mem_written effective.mem_written
  rw [effective.name, declaredNames, List.mem_toFinset]
  exact List.mem_map_of_mem declared

theorem card_columnAttributes (mro : List (Namespace N)) :
    (columnAttributes mro).card = (effectiveAttributes mro).card + (masked mro).card := by
  rw [masked, Finset.card_sdiff_of_subset (effectiveAttributes_subset mro)]
  have below := Finset.card_le_card (effectiveAttributes_subset mro)
  omega

theorem card_declaredNames (mro : List (Namespace N)) :
    (declaredNames mro).card = (effectiveNames mro).card + (stale mro).card := by
  rw [stale, Finset.card_sdiff_of_subset (effectiveNames_subset mro)]
  have below := Finset.card_le_card (effectiveNames_subset mro)
  omega

theorem card_effectiveAttributes (mro : List (Namespace N)) :
    (effectiveAttributes mro).card = (effectiveNames mro).card + surplus mro := by
  have below : (effectiveNames mro).card ≤ (effectiveAttributes mro).card := Finset.card_image_le
  rw [surplus]
  omega

/-- Effective columns clash exactly when there are more of them than names. -/
theorem clash_iff (mro : List (Namespace N)) : Clash mro ↔ surplus mro ≠ 0 := by
  have counted : surplus mro = 0 ↔ (effectiveNames mro).card = (effectiveAttributes mro).card := by
    have total := card_effectiveAttributes mro
    omega
  rw [ne_eq, counted, effectiveNames, Finset.card_image_iff, Set.InjOn]
  constructor
  · rintro ⟨attr, other, column, twin, apart, first, second, same⟩ injective
    refine apart (injective (mem_effectiveAttributes.mpr ⟨_, first⟩)
      (mem_effectiveAttributes.mpr ⟨_, second⟩) ?_)
    rw [first.name, second.name, same]
  · intro collapses
    push Not at collapses
    obtain ⟨attr, first, other, second, same, apart⟩ := collapses
    obtain ⟨column, first⟩ := mem_effectiveAttributes.mp first
    obtain ⟨twin, second⟩ := mem_effectiveAttributes.mp second
    rw [first.name, second.name] at same
    exact ⟨attr, other, column, twin, apart, first, second, same⟩

theorem raises_iff (mro : List (Namespace N)) :
    declaredColumns mro = .error .duplicateColumnNames ↔
      (stale mro).card ≠ (masked mro).card + surplus mro := by
  have attributes := card_columnAttributes mro
  have names := card_declaredNames mro
  have effective := card_effectiveAttributes mro
  rw [declaredColumns_eq]
  by_cases differ : (declaredNames mro).card ≠ (columnAttributes mro).card
  · rw [if_pos differ]
    simp only [true_iff]
    omega
  · rw [if_neg differ]
    simp only [reduceCtorEq, false_iff]
    omega

/-- What the walk keeps are the effective columns exactly when no column is masked. -/
theorem written_effective_iff (mro : List (Namespace N)) :
    (∀ attr column, (attr, column) ∈ written (declarations mro) ↔ Effective mro attr column) ↔
      masked mro = ∅ := by
  rw [masked, Finset.sdiff_eq_empty_iff_subset]
  constructor
  · intro agree attr declared
    obtain ⟨column, kept⟩ := mem_columnAttributes.mp declared
    exact mem_effectiveAttributes.mpr ⟨column, (agree attr column).mp kept⟩
  · intro unmasked attr column
    refine ⟨fun kept => ?_, Effective.mem_written⟩
    obtain ⟨found, effective⟩ :=
      mem_effectiveAttributes.mp (unmasked (mem_columnAttributes.mpr ⟨column, kept⟩))
    have same := (mem_iff_lookup (nodup_written _)).mp kept
    rw [lookup_declarations_of_mroLookup effective] at same
    cases same
    exact effective

theorem declaredColumns_ok {mro : List (Namespace N)} {columns : List (String × Column N)}
    (returned : declaredColumns mro = .ok columns) : columns = written (declarations mro) := by
  rw [declaredColumns_eq] at returned
  split at returned
  · cases returned
  · exact (Except.ok.inj returned).symm

theorem declaredColumns_ok_of_not_raises {mro : List (Namespace N)}
    (returns : declaredColumns mro ≠ .error .duplicateColumnNames) :
    declaredColumns mro = .ok (written (declarations mro)) := by
  cases result : declaredColumns mro with
  | error error => exact absurd result returns
  | ok columns => rw [declaredColumns_ok result]

/-- Discovery follows lookup exactly when the declarations beside the effective columns do not
disturb the count of names: none may be left where no two effective columns share a name, and
where two do, they must not make up for the missing names. -/
theorem followsLookup_iff (mro : List (Namespace N)) :
    FollowsLookup mro ↔
      (¬Clash mro ∧ masked mro = ∅ ∧ stale mro = ∅) ∨
        (Clash mro ∧ (stale mro).card ≠ (masked mro).card + surplus mro) := by
  by_cases clash : Clash mro
  · have follows : FollowsLookup mro ↔ declaredColumns mro = .error .duplicateColumnNames := by
      constructor
      · intro follows
        exact follows.2.mpr clash
      · intro raises
        refine ⟨fun columns returned => ?_, fun _ => clash, fun _ => raises⟩
        rw [raises] at returned
        cases returned
    rw [follows, raises_iff]
    simp [clash]
  · have level : surplus mro = 0 := not_not.mp fun some => clash ((clash_iff mro).mpr some)
    have quiet : declaredColumns mro ≠ .error .duplicateColumnNames ↔
        (stale mro).card = (masked mro).card := by
      rw [ne_eq, raises_iff, level, Nat.add_zero, not_not]
    simp only [clash, not_false_eq_true, true_and, false_and, or_false]
    constructor
    · intro follows
      have returns : declaredColumns mro ≠ .error .duplicateColumnNames :=
        fun raises => clash (follows.2.mp raises)
      have unmasked : masked mro = ∅ :=
        (written_effective_iff mro).mp
          (follows.1 _ (declaredColumns_ok_of_not_raises returns)).2
      have counts := quiet.mp returns
      rw [unmasked, Finset.card_empty] at counts
      exact ⟨unmasked, Finset.card_eq_zero.mp counts⟩
    · rintro ⟨unmasked, fresh⟩
      have returns : declaredColumns mro ≠ .error .duplicateColumnNames :=
        quiet.mpr (by rw [unmasked, fresh])
      refine ⟨fun columns returned => ?_, fun raises => absurd raises returns,
        fun clashes => absurd clashes clash⟩
      rw [declaredColumns_ok returned]
      exact ⟨nodup_written _, (written_effective_iff mro).mpr unmasked⟩

/-! ### A renamed override

The subclass declares the column `a` again under another SQL name. Only its own declaration is
effective, yet both names are counted. -/

def renamedOverride : List (Namespace Unit) :=
  [⟨[("a", .column ⟨(), "y"⟩)], by decide⟩, ⟨[("a", .column ⟨(), "x"⟩)], by decide⟩]

theorem renamedOverride_not_followsLookup : ¬FollowsLookup renamedOverride := by
  intro follows
  have clash : Clash renamedOverride := follows.2.mp (by rfl)
  rw [clash_iff] at clash
  exact clash (by decide)

end Relq
