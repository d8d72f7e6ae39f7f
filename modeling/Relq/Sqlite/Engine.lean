/-
Module: Relq.Sqlite.Engine
Layer: Sqlite
Purpose: SQLite's side of transaction control: an optional open transaction with a stack of savepoint
  names, innermost first, and the effect of each control statement on it. Names are compared without
  ASCII case and a name denotes its innermost savepoint. `Tracks` relates the names a client believes
  live to the stack, which may hold other savepoints in between.
Imports: none (Mathlib-free)
Trusted boundary: human-reviewed spec (Engine, Control, Engine.run)
Main exports: foldName, Engine, Control, Engine.run, Tracks, Tracks.nil, Tracks.push, Tracks.release,
  Tracks.rollbackTo, Tracks.sublist
-/

namespace Relq.Sqlite

/-- `_savepoint_name_key`: ASCII capitals become small letters. -/
def foldName (name : String) : String :=
  String.ofList (name.toList.map fun c =>
    if 'A' ≤ c ∧ c ≤ 'Z' then Char.ofNat (c.toNat + ('a'.toNat - 'A'.toNat)) else c)

/-- No open transaction, or an open one with its savepoints, innermost first. -/
abbrev Engine := Option (List String)

/-- The control statements the registry sends. -/
inductive Control where
  | begin (statement : String)
  | commit
  | rollback
  | savepoint (name : String)
  | release (name : String)
  | rollbackTo (name : String)
deriving DecidableEq, Repr

/-- The stack from the innermost savepoint of that name on. -/
def fromInnermost (name : String) (stack : List String) : List String :=
  stack.dropWhile fun other => decide (foldName other ≠ foldName name)

/-- The effect of a control statement; `none` when the engine refuses it. A commit or rollback
outside a transaction does nothing, as the connection's methods do. -/
def Engine.run : Control → Engine → Option Engine
  | .begin _, none => some (some [])
  | .begin _, some _ => none
  | .commit, _ => some none
  | .rollback, _ => some none
  | .savepoint name, engine => some (some (name :: engine.getD []))
  | .release name, some stack =>
      match fromInnermost name stack with
      | [] => none
      | _ :: below => some (some below)
  | .rollbackTo name, some stack =>
      match fromInnermost name stack with
      | [] => none
      | found :: below => some (some (found :: below))
  | .release _, none => none
  | .rollbackTo _, none => none

/-! ### Live names on the stack -/

/-- The names stand on the stack in their order, innermost first, and every other savepoint above
one of them has a different name. -/
def Tracks : List String → List String → Prop
  | [], _ => True
  | _ :: _, [] => False
  | name :: names, top :: below =>
      (top = name ∧ Tracks names below) ∨
        ((∀ live ∈ name :: names, foldName top ≠ foldName live) ∧ Tracks (name :: names) below)

/-- The names compare pairwise different. -/
def DistinctNames (names : List String) : Prop :=
  names.Pairwise fun first second => foldName first ≠ foldName second

theorem Tracks.nil (stack : List String) : Tracks [] stack := by
  cases stack <;> trivial

theorem Tracks.push {names stack : List String} (tracks : Tracks names stack) (name : String) :
    Tracks (name :: names) (name :: stack) :=
  Or.inl ⟨rfl, tracks⟩

theorem Tracks.subsequence {names stack : List String} (tracks : Tracks names stack) :
    names.Sublist stack := by
  induction stack generalizing names with
  | nil => cases names with
    | nil => exact .slnil
    | cons name names => exact absurd tracks id
  | cons top below ih =>
      cases names with
      | nil => exact List.nil_sublist _
      | cons name names =>
          rcases tracks with ⟨rfl, tracks⟩ | ⟨-, tracks⟩
          · exact (ih tracks).cons_cons top
          · exact (ih tracks).cons top

/-- Names that are no longer live may stay on the stack. -/
theorem Tracks.sublist {names fewer stack : List String} (tracks : Tracks names stack)
    (distinct : DistinctNames names) (some_ : fewer.Sublist names) : Tracks fewer stack := by
  induction stack generalizing names fewer with
  | nil =>
      cases names with
      | nil => rw [List.sublist_nil.mp some_]; trivial
      | cons name names => exact absurd tracks id
  | cons top below ih =>
      cases fewer with
      | nil => trivial
      | cons live fewer =>
          cases names with
          | nil => simp at some_
          | cons name names =>
              rcases tracks with ⟨rfl, tracks⟩ | ⟨stale, tracks⟩
              · obtain ⟨fresh, distinct⟩ := List.pairwise_cons.mp distinct
                cases some_ with
                | cons _ inside =>
                    exact Or.inr ⟨fun other member => fresh other (inside.subset member),
                      ih tracks distinct inside⟩
                | cons_cons _ inside => exact Or.inl ⟨rfl, ih tracks distinct inside⟩
              · exact Or.inr ⟨fun other member => stale other (some_.subset member),
                  ih tracks distinct some_⟩

/-- The innermost savepoint of a live name is the one that was meant. -/
theorem Tracks.fromInnermost {above names stack : List String} {name : String}
    (tracks : Tracks (above ++ name :: names) stack)
    (distinct : DistinctNames (above ++ name :: names)) :
    ∃ below, fromInnermost name stack = name :: below ∧ Tracks names below := by
  induction stack generalizing above with
  | nil => cases above <;> exact absurd tracks id
  | cons top below ih =>
      cases above with
      | nil =>
          rcases tracks with ⟨rfl, tracks⟩ | ⟨stale, tracks⟩
          · exact ⟨below, by simp [Sqlite.fromInnermost], tracks⟩
          · have inside : Tracks ([] ++ name :: names) below := tracks
            obtain ⟨found, same, tracked⟩ := ih inside distinct
            have other := stale name List.mem_cons_self
            exact ⟨found, by simpa [Sqlite.fromInnermost, other] using same, tracked⟩
      | cons first above =>
          obtain ⟨fresh, later⟩ := List.pairwise_cons.mp distinct
          rcases tracks with ⟨rfl, tracks⟩ | ⟨stale, tracks⟩
          · obtain ⟨found, same, tracked⟩ := ih tracks later
            have other := fresh name (by simp)
            exact ⟨found, by simpa [Sqlite.fromInnermost, other] using same, tracked⟩
          · obtain ⟨found, same, tracked⟩ := ih tracks distinct
            have other := stale name (by simp)
            exact ⟨found, by simpa [Sqlite.fromInnermost, other] using same, tracked⟩

/-- RELEASE of a live name leaves the names below it tracked. -/
theorem Tracks.release {above names stack : List String} {name : String}
    (tracks : Tracks (above ++ name :: names) stack)
    (distinct : DistinctNames (above ++ name :: names)) :
    ∃ below, Engine.run (.release name) (some stack) = some (some below) ∧ Tracks names below := by
  obtain ⟨below, found, tracked⟩ := tracks.fromInnermost distinct
  exact ⟨below, by simp [Engine.run, found], tracked⟩

/-- ROLLBACK TO a live name keeps it and the names below it tracked. -/
theorem Tracks.rollbackTo {above names stack : List String} {name : String}
    (tracks : Tracks (above ++ name :: names) stack)
    (distinct : DistinctNames (above ++ name :: names)) :
    ∃ below, Engine.run (.rollbackTo name) (some stack) = some (some below) ∧
      Tracks (name :: names) below := by
  obtain ⟨below, found, tracked⟩ := tracks.fromInnermost distinct
  exact ⟨name :: below, by simp [Engine.run, found], tracked.push name⟩

end Relq.Sqlite
