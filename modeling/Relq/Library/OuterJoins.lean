/-
Module: Relq.Library.OuterJoins
Layer: Library
Purpose: Left-deep chains of joins over bags of rows. A joined row holds, for every source joined so
  far, a row of that source or nothing, where an outer join has extended it. Which sources a chain can
  extend is a matter of its kinds alone.
Imports: Mathlib.Data.List.Basic
Trusted boundary: human-reviewed spec (Kind, join, joinAll)
Main exports: Kind, Joined, join, joinAll, extendedBy, extendable, extendable_sound, joinAll_sources,
  extendable_reached, extendable_tight, drawn_joinAll
-/
import Mathlib.Data.List.Basic

namespace OuterJoins

inductive Kind where
  | inner
  | left
  | right
  | full
  | cross
deriving DecidableEq, Repr

/-- A joined row: every source with its row, or with nothing where it is NULL-extended. -/
abbrev Joined (α R : Type) : Type :=
  List (α × Option R)

section Semantics

variable {α R : Type}

def extended (row : Joined α R) (source : α) (own : Option R) : Joined α R :=
  row ++ [(source, own)]

/-- The rows of a source that go with a joined row. -/
def matching (on : Joined α R → Bool) (source : α) (rows : List R) (row : Joined α R) :
    List (Joined α R) :=
  (rows.map fun own => extended row source (some own)).filter on

/-- A row of a joined relation whose sources are `sources`, all of them extended. -/
def nothing (sources : List α) : Joined α R :=
  sources.map fun source => (source, none)

/-- The joined rows with what they match, or extended when they match nothing. -/
def keepLeft (on : Joined α R → Bool) (source : α) (rows : List R) (joined : List (Joined α R)) :
    List (Joined α R) :=
  joined.flatMap fun row =>
    if matching on source rows row = [] then [extended row source none]
    else matching on source rows row

/-- The rows of the new source that match no joined row. -/
def unmatched (on : Joined α R → Bool) (source : α) (rows : List R) (joined : List (Joined α R)) :
    List R :=
  rows.filter fun own => !joined.any fun row => on (extended row source (some own))

def keepRight (on : Joined α R → Bool) (sources : List α) (source : α) (rows : List R)
    (joined : List (Joined α R)) : List (Joined α R) :=
  (unmatched on source rows joined).map fun own => extended (nothing sources) source (some own)

/-- One join of a relation over `sources` with the rows of one more source. -/
def join (kind : Kind) (on : Joined α R → Bool) (sources : List α) (source : α) (rows : List R)
    (joined : List (Joined α R)) : List (Joined α R) :=
  match kind with
  | .inner => joined.flatMap (matching on source rows)
  | .cross => joined.flatMap (matching (fun _ => true) source rows)
  | .left => keepLeft on source rows joined
  | .right =>
      joined.flatMap (matching on source rows) ++ keepRight on sources source rows joined
  | .full => keepLeft on source rows joined ++ keepRight on sources source rows joined

/-- The joins of a chain, one after the other. -/
def joinRest (contents : α → List R) (on : α → Joined α R → Bool) :
    List α → List (Joined α R) → List (Kind × α) → List (Joined α R)
  | _, joined, [] => joined
  | sources, joined, (kind, source) :: rest =>
      joinRest contents on (sources ++ [source])
        (join kind (on source) sources source (contents source) joined) rest

/-- The relation of a chain that starts with `first`. Contents and conditions are those of the source
they belong to. -/
def joinAll (contents : α → List R) (on : α → Joined α R → Bool) (first : α)
    (chain : List (Kind × α)) : List (Joined α R) :=
  joinRest contents on [first] ((contents first).map fun own => [(first, some own)]) chain

end Semantics

/-! ### Which sources a chain can extend -/

section Extension

variable {α R : Type}

/-- The sources that one join can newly extend. -/
def extendedBy (kind : Kind) (sources : List α) (source : α) : List α :=
  match kind with
  | .inner | .cross => []
  | .left => [source]
  | .right => sources
  | .full => sources ++ [source]

def extendable (sources : List α) : List (Kind × α) → List α
  | [] => []
  | (kind, source) :: rest =>
      extendedBy kind sources source ++ extendable (sources ++ [source]) rest

/-- The rows are over `sources` and extend none outside `allowed`. -/
def Within (sources allowed : List α) (joined : List (Joined α R)) : Prop :=
  ∀ row ∈ joined, row.map Prod.fst = sources ∧ ∀ source, (source, none) ∈ row → source ∈ allowed

theorem matching_within {on : Joined α R → Bool} {sources allowed : List α} {source : α}
    {rows : List R} {row : Joined α R} (over_ : row.map Prod.fst = sources)
    (within : ∀ other, (other, none) ∈ row → other ∈ allowed) :
    Within (sources ++ [source]) allowed (matching on source rows row) := by
  intro result member
  obtain ⟨own, -, rfl⟩ := List.mem_map.mp (List.mem_of_mem_filter member)
  refine ⟨by simp [extended, over_], fun other none => ?_⟩
  rcases List.mem_append.mp none with old | new
  · exact within other old
  · simp at new

theorem Within.mono {sources allowed allowed' : List α} {joined : List (Joined α R)}
    (within : Within sources allowed joined) (more : ∀ source ∈ allowed, source ∈ allowed') :
    Within sources allowed' joined :=
  fun row member => ⟨(within row member).1, fun source none =>
    more source ((within row member).2 source none)⟩

theorem Within.append {sources allowed : List α} {first second : List (Joined α R)}
    (one : Within sources allowed first) (two : Within sources allowed second) :
    Within sources allowed (first ++ second) := by
  intro row member
  rcases List.mem_append.mp member with early | late
  · exact one row early
  · exact two row late

theorem Within.flatMap {sources' allowed : List α} {joined : List (Joined α R)}
    {f : Joined α R → List (Joined α R)}
    (each : ∀ row ∈ joined, Within sources' allowed (f row)) :
    Within sources' allowed (joined.flatMap f) := by
  intro result member
  obtain ⟨row, inside, produced⟩ := List.mem_flatMap.mp member
  exact each row inside result produced

theorem keepLeft_within {on : Joined α R → Bool} {sources allowed : List α} {source : α}
    {rows : List R} {joined : List (Joined α R)} (within : Within sources allowed joined) :
    Within (sources ++ [source]) (allowed ++ [source]) (keepLeft on source rows joined) := by
  refine Within.flatMap fun row member => ?_
  obtain ⟨over_, extends'⟩ := within row member
  split
  · intro result single
    obtain rfl := List.mem_singleton.mp single
    refine ⟨by simp [extended, over_], fun other none => ?_⟩
    rcases List.mem_append.mp none with old | new
    · exact List.mem_append_left _ (extends' other old)
    · simp only [List.mem_singleton, Prod.mk.injEq, and_true] at new
      exact List.mem_append_right _ (by simp [new])
  · exact (matching_within over_ extends').mono fun other known => List.mem_append_left _ known

theorem keepRight_within {on : Joined α R → Bool} {sources : List α} {source : α}
    {rows : List R} {joined : List (Joined α R)} :
    Within (sources ++ [source]) sources (keepRight on sources source rows joined) := by
  intro result member
  obtain ⟨own, -, rfl⟩ := List.mem_map.mp member
  refine ⟨by simp [extended, nothing, Function.comp_def], fun other none => ?_⟩
  rcases List.mem_append.mp none with old | new
  · obtain ⟨known, inside, same⟩ := List.mem_map.mp old
    obtain rfl := (Prod.mk.inj same).1
    exact inside
  · simp at new

/-- One join extends no more than its kind says. -/
theorem join_within {kind : Kind} {on : Joined α R → Bool} {sources allowed : List α} {source : α}
    {rows : List R} {joined : List (Joined α R)} (within : Within sources allowed joined) :
    Within (sources ++ [source]) (allowed ++ extendedBy kind sources source)
      (join kind on sources source rows joined) := by
  have matched : ∀ on : Joined α R → Bool, Within (sources ++ [source]) allowed
      (joined.flatMap (matching on source rows)) := fun on =>
    Within.flatMap fun row member =>
      matching_within (within row member).1 (within row member).2
  cases kind with
  | inner => simpa [join, extendedBy] using matched on
  | cross => simpa [join, extendedBy] using matched fun _ => true
  | left => exact keepLeft_within within
  | right =>
      refine ((matched on).mono fun other known => List.mem_append_left _ known).append ?_
      exact keepRight_within.mono fun other known => List.mem_append_right _ known
  | full =>
      refine ((keepLeft_within within).mono fun other known => ?_).append
        (keepRight_within.mono fun other known => ?_)
      · simp only [extendedBy, List.mem_append] at known ⊢
        rcases known with old | new
        · exact .inl old
        · exact .inr (.inr new)
      · simp only [extendedBy, List.mem_append]
        exact .inr (.inl known)

theorem joinRest_within {contents : α → List R} {on : α → Joined α R → Bool}
    {sources allowed : List α} {joined : List (Joined α R)} {chain : List (Kind × α)}
    (within : Within sources allowed joined) {row : Joined α R}
    (member : row ∈ joinRest contents on sources joined chain) {source : α}
    (none : (source, none) ∈ row) : source ∈ allowed ++ extendable sources chain := by
  induction chain generalizing sources allowed joined with
  | nil => exact List.mem_append_left _ ((within row member).2 source none)
  | cons link rest ih =>
      obtain ⟨kind, new⟩ := link
      rw [extendable, ← List.append_assoc]
      exact ih (join_within within) member

/-- A joined row has an entry for every source, in the order of the joins. -/
theorem joinRest_sources {contents : α → List R} {on : α → Joined α R → Bool}
    {sources allowed : List α} {joined : List (Joined α R)} {chain : List (Kind × α)}
    (within : Within sources allowed joined) {row : Joined α R}
    (member : row ∈ joinRest contents on sources joined chain) :
    row.map Prod.fst = sources ++ chain.map Prod.snd := by
  induction chain generalizing sources allowed joined with
  | nil =>
      rw [List.map_nil, List.append_nil]
      exact (within row member).1
  | cons link rest ih =>
      obtain ⟨kind, new⟩ := link
      rw [ih (join_within within) member, List.append_assoc, List.map_cons, List.singleton_append]

theorem singles_within {rows : List R} {first : α} :
    Within [first] [] (rows.map fun own => [(first, some own)]) := by
  intro row inside
  obtain ⟨own, -, rfl⟩ := List.mem_map.mp inside
  simp

theorem joinAll_sources {contents : α → List R} {on : α → Joined α R → Bool} {first : α}
    {chain : List (Kind × α)} {row : Joined α R} (member : row ∈ joinAll contents on first chain) :
    row.map Prod.fst = first :: chain.map Prod.snd :=
  joinRest_sources singles_within member

/-- A source outside the set is extended on no row, whatever the contents and the conditions. -/
theorem extendable_sound {contents : α → List R} {on : α → Joined α R → Bool} {first : α}
    {chain : List (Kind × α)} {row : Joined α R} (member : row ∈ joinAll contents on first chain)
    {source : α} (none : (source, none) ∈ row) : source ∈ extendable [first] chain := by
  simpa using joinRest_within singles_within member none

/-! ### Every source in the set is extended somewhere -/

theorem mem_join_of_match {kind : Kind} {on : Joined α R → Bool} {sources : List α} {source : α}
    {rows : List R} {joined : List (Joined α R)} {row : Joined α R} (member : row ∈ joined)
    {own : R} (present : own ∈ rows) (holds : on (extended row source (some own)) = true) :
    extended row source (some own) ∈ join kind on sources source rows joined := by
  have matched : ∀ on : Joined α R → Bool, on (extended row source (some own)) = true →
      extended row source (some own) ∈ matching on source rows row := fun on holds =>
    List.mem_filter.mpr ⟨List.mem_map_of_mem present, holds⟩
  have kept : extended row source (some own) ∈ keepLeft on source rows joined := by
    refine List.mem_flatMap.mpr ⟨row, member, ?_⟩
    rw [if_neg (List.ne_nil_of_mem (matched on holds))]
    exact matched on holds
  cases kind with
  | inner => exact List.mem_flatMap.mpr ⟨row, member, matched on holds⟩
  | cross => exact List.mem_flatMap.mpr ⟨row, member, matched _ rfl⟩
  | left => exact kept
  | right => exact List.mem_append_left _ (List.mem_flatMap.mpr ⟨row, member, matched on holds⟩)
  | full => exact List.mem_append_left _ kept

section Witness

variable [DecidableEq α] (own : R) (failing : α)

/-- Every source has one row. -/
def oneRow : α → List R :=
  fun _ => [own]

/-- All conditions hold but that of one source. -/
def allBut : α → Joined α R → Bool :=
  fun source _ => decide (source ≠ failing)

variable {own failing}

theorem mem_join_of_ne (own : R) (kind : Kind) (sources : List α) {source : α} {joined : List (Joined α R)}
    {row : Joined α R} (member : row ∈ joined) (other : source ≠ failing) :
    extended row source (some own) ∈
      join kind (allBut failing source) sources source (oneRow own source) joined :=
  mem_join_of_match member (List.mem_singleton.mpr rfl) (decide_eq_true other)

/-- Past the failing condition every row survives. -/
theorem mem_joinRest_of_later (own : R) (sources : List α) {joined : List (Joined α R)}
    {chain : List (Kind × α)} (later : ∀ link ∈ chain, link.2 ≠ failing)
    {row : Joined α R} (member : row ∈ joined) :
    ∃ rest, row ++ rest ∈ joinRest (oneRow own) (allBut failing) sources joined chain := by
  induction chain generalizing sources joined row with
  | nil =>
      refine ⟨[], ?_⟩
      rw [List.append_nil]
      exact member
  | cons link rest ih =>
      obtain ⟨kind, source⟩ := link
      obtain ⟨more, reached⟩ := ih (sources ++ [source])
        (fun link member => later link (by simp [member]))
        (mem_join_of_ne own kind sources member (later (kind, source) (by simp)))
      rw [extended, List.append_assoc] at reached
      exact ⟨(source, some own) :: more, reached⟩

omit [DecidableEq α] in
/-- A join whose condition fails for the only row extends what its kind says. -/
theorem exists_extended (own : R) {kind : Kind} {on : Joined α R → Bool} {sources : List α}
    {source target : α} {joined : List (Joined α R)} {row : Joined α R} (member : row ∈ joined)
    (fails : ∀ row, on row = false) (mem : target ∈ extendedBy kind sources source) :
    ∃ row ∈ join kind on sources source [own] joined, (target, none) ∈ row := by
  have empty : ∀ row, matching on source [own] row = [] := fun row => by simp [matching, fails]
  have left : extended row source none ∈ keepLeft on source [own] joined :=
    List.mem_flatMap.mpr ⟨row, member, by simp [empty]⟩
  have right : extended (nothing sources) source (some own) ∈
      keepRight on sources source [own] joined :=
    List.mem_map.mpr ⟨own, by simp [unmatched, fails], rfl⟩
  have earlier : target ∈ sources → (target, none) ∈
      extended (nothing sources) source (some own) := fun inside =>
    List.mem_append_left _ (List.mem_map_of_mem inside)
  cases kind with
  | inner => simp [extendedBy] at mem
  | cross => simp [extendedBy] at mem
  | left =>
      obtain rfl := List.mem_singleton.mp mem
      exact ⟨_, left, by simp [extended]⟩
  | right => exact ⟨_, List.mem_append_right _ right, earlier mem⟩
  | full =>
      rcases List.mem_append.mp mem with inside | same
      · exact ⟨_, List.mem_append_right _ right, earlier inside⟩
      · obtain rfl := List.mem_singleton.mp same
        exact ⟨_, List.mem_append_left _ left, by simp [extended]⟩

theorem exists_extended_rest (own : R) {sources : List α} {chain : List (Kind × α)}
    (distinct : (chain.map Prod.snd).Nodup) {target : α} (mem : target ∈ extendable sources chain) :
    ∃ failing ∈ chain.map Prod.snd, ∀ (joined : List (Joined α R)) (row : Joined α R),
      row ∈ joined → ∃ result ∈ joinRest (oneRow own) (allBut failing) sources joined chain,
        (target, none) ∈ result := by
  induction chain generalizing sources with
  | nil => simp [extendable] at mem
  | cons link rest ih =>
      obtain ⟨kind, source⟩ := link
      simp only [List.map_cons, List.nodup_cons] at distinct
      rw [extendable, List.mem_append] at mem
      rcases mem with here | later
      · -- The condition of this join fails.
        refine ⟨source, by simp, fun joined row member => ?_⟩
        have fails : ∀ row : Joined α R, allBut source source row = false := by simp [allBut]
        obtain ⟨row', joined', none⟩ := exists_extended own member fails here
        have others : ∀ link ∈ rest, link.2 ≠ source := fun link member same =>
          distinct.1 (same ▸ List.mem_map_of_mem member)
        obtain ⟨more, reached⟩ := mem_joinRest_of_later own (sources ++ [source]) others joined'
        exact ⟨_, reached, List.mem_append_left _ none⟩
      · -- That of a later one fails, and this join keeps the row.
        obtain ⟨failing, inside, reach⟩ := ih distinct.2 later
        refine ⟨failing, List.mem_cons_of_mem _ inside, fun joined row member => ?_⟩
        have other : source ≠ failing := fun same => distinct.1 (same ▸ inside)
        exact reach _ _ (mem_join_of_ne own kind sources member other)

/-- One row in every source is enough to extend a source in the set. -/
theorem extendable_reached (own : R) {first : α} {chain : List (Kind × α)}
    (distinct : (chain.map Prod.snd).Nodup) {source : α} (mem : source ∈ extendable [first] chain) :
    ∃ on : α → Joined α R → Bool,
      ∃ row ∈ joinAll (oneRow own) on first chain, (source, none) ∈ row := by
  obtain ⟨failing, -, reach⟩ := exists_extended_rest own distinct mem
  exact ⟨allBut failing, reach _ [(first, some own)] (by simp [oneRow])⟩

/-- For every source in the set there are contents and conditions under which some row extends it. -/
theorem extendable_tight (own : R) {first : α} {chain : List (Kind × α)}
    (distinct : (chain.map Prod.snd).Nodup) {source : α} (mem : source ∈ extendable [first] chain) :
    ∃ (contents : α → List R) (on : α → Joined α R → Bool),
      ∃ row ∈ joinAll contents on first chain, (source, none) ∈ row := by
  exact ⟨oneRow own, extendable_reached own distinct mem⟩

end Witness

end Extension

/-! ### Where the parts of a joined row come from -/

section Contents

variable {α R : Type} {contents : α → List R}

/-- The row of a source within a joined row is one of the rows of that source. -/
def Drawn (contents : α → List R) (joined : List (Joined α R)) : Prop :=
  ∀ row ∈ joined, ∀ source own, (source, some own) ∈ row → own ∈ contents source

theorem Drawn.append {first second : List (Joined α R)} (one : Drawn contents first)
    (two : Drawn contents second) : Drawn contents (first ++ second) := by
  intro row member
  rcases List.mem_append.mp member with early | late
  · exact one row early
  · exact two row late

theorem Drawn.flatMap {joined : List (Joined α R)} {f : Joined α R → List (Joined α R)}
    (each : ∀ row ∈ joined, Drawn contents (f row)) : Drawn contents (joined.flatMap f) := by
  intro result member
  obtain ⟨row, inside, produced⟩ := List.mem_flatMap.mp member
  exact each row inside result produced

theorem drawn_matching {on : Joined α R → Bool} {source : α} {row : Joined α R}
    (drawn : ∀ other own, (other, some own) ∈ row → own ∈ contents other) :
    Drawn contents (matching on source (contents source) row) := by
  intro result member other own entry
  obtain ⟨new, inside, rfl⟩ := List.mem_map.mp (List.mem_of_mem_filter member)
  rcases List.mem_append.mp entry with old | last
  · exact drawn other own old
  · simp only [List.mem_singleton, Prod.mk.injEq, Option.some.injEq] at last
    obtain ⟨rfl, rfl⟩ := last
    exact inside

theorem drawn_keepLeft {on : Joined α R → Bool} {source : α} {joined : List (Joined α R)}
    (drawn : Drawn contents joined) :
    Drawn contents (keepLeft on source (contents source) joined) := by
  refine Drawn.flatMap fun row member => ?_
  split
  · intro result single other own entry
    obtain rfl := List.mem_singleton.mp single
    rcases List.mem_append.mp entry with old | last
    · exact drawn row member other own old
    · simp at last
  · exact drawn_matching (drawn row member)

theorem drawn_keepRight {on : Joined α R → Bool} {sources : List α} {source : α}
    {joined : List (Joined α R)} :
    Drawn contents (keepRight on sources source (contents source) joined) := by
  intro result member other own entry
  obtain ⟨new, unmatched, rfl⟩ := List.mem_map.mp member
  rcases List.mem_append.mp entry with old | last
  · simp [nothing] at old
  · simp only [List.mem_singleton, Prod.mk.injEq, Option.some.injEq] at last
    obtain ⟨rfl, rfl⟩ := last
    exact List.mem_of_mem_filter unmatched

theorem drawn_join {kind : Kind} {on : Joined α R → Bool} {sources : List α} {source : α}
    {joined : List (Joined α R)} (drawn : Drawn contents joined) :
    Drawn contents (join kind on sources source (contents source) joined) := by
  have matched : ∀ on : Joined α R → Bool,
      Drawn contents (joined.flatMap (matching on source (contents source))) := fun on =>
    Drawn.flatMap fun row member => drawn_matching (drawn row member)
  cases kind with
  | inner => exact matched on
  | cross => exact matched fun _ => true
  | left => exact drawn_keepLeft drawn
  | right => exact (matched on).append drawn_keepRight
  | full => exact (drawn_keepLeft drawn).append drawn_keepRight

theorem drawn_joinRest {on : α → Joined α R → Bool} {sources : List α} {joined : List (Joined α R)}
    {chain : List (Kind × α)} (drawn : Drawn contents joined) :
    Drawn contents (joinRest contents on sources joined chain) := by
  induction chain generalizing sources joined with
  | nil => exact drawn
  | cons link rest ih =>
      obtain ⟨kind, source⟩ := link
      exact ih (drawn_join drawn)

theorem drawn_joinAll {on : α → Joined α R → Bool} {first : α} {chain : List (Kind × α)} :
    Drawn contents (joinAll contents on first chain) := by
  refine drawn_joinRest fun row member source own entry => ?_
  obtain ⟨new, inside, rfl⟩ := List.mem_map.mp member
  simp only [List.mem_singleton, Prod.mk.injEq, Option.some.injEq] at entry
  obtain ⟨rfl, rfl⟩ := entry
  exact inside

end Contents

end OuterJoins
