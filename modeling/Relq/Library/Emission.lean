/-
Module: Relq.Library.Emission
Layer: Library
Purpose: Programs that only extend a list of parameters. `Emits m result values` says what such a
  program does when it succeeds: it appends `values`, and what it returns depends on the parameters
  before it only through their number.
Imports: Relq.Library.Outcome
Trusted boundary: none (fully proved)
Main exports: EmitsAt, EmitsAt.pure, EmitsAt.bind, EmitsAt.throw, EmitsAt.lift, EmitsAt.ite,
  EmitsAt.congr, Emits, Returns, Together, returns_bind, Succeeds, Succeeds.bind
-/
import Relq.Library.Outcome

open Outcome

variable {V ε α β : Type}

/-- Started behind `n` parameters, the program returns `result` and appends `values`, or raises. -/
def EmitsAt (n : Nat) (m : StateT (List V) (Except ε) α) (result : α) (values : List V) : Prop :=
  ∀ before out, before.length = n → m before = .ok out → out = (result, before ++ values)

namespace EmitsAt

variable {n : Nat}

theorem pure (a : α) : EmitsAt n (pure a : StateT (List V) (Except ε) α) a [] := by
  rintro before out rfl done
  rw [state_pure_eq_ok] at done
  rw [← done, List.append_nil]

theorem throw (error : ε) (result : α) (values : List V) :
    EmitsAt n (throw error : StateT (List V) (Except ε) α) result values :=
  fun _ _ _ done => absurd done (by simp)

theorem throw_bind (error : ε) (f : α → StateT (List V) (Except ε) β) (result : β)
    (values : List V) : EmitsAt n (MonadExcept.throw error >>= f) result values :=
  fun _ _ _ done => absurd done (by simp)

/-- The second program starts behind the parameters of the first. -/
theorem bind {m : StateT (List V) (Except ε) α} {f : α → StateT (List V) (Except ε) β}
    {result : α} {result' : β} {values values' : List V} (first : EmitsAt n m result values)
    (second : EmitsAt (n + values.length) (f result) result' values') :
    EmitsAt n (m >>= f) result' (values ++ values') := by
  rintro before out rfl done
  obtain ⟨a, middle, start, rest⟩ := state_bind_eq_ok.mp done
  obtain ⟨rfl, rfl⟩ := Prod.mk.inj (first before _ rfl start)
  rw [second _ _ List.length_append rest, List.append_assoc]

/-- Only the result of the program is worked on. -/
theorem map {m : StateT (List V) (Except ε) α} {f : α → β} {a : α} {values : List V}
    (first : EmitsAt n m a values) : EmitsAt n (m >>= fun b => Pure.pure (f b)) (f a) values := by
  rintro before out rfl done
  obtain ⟨b, middle, start, rest⟩ := state_bind_eq_ok.mp done
  obtain ⟨rfl, rfl⟩ := Prod.mk.inj (first before _ rfl start)
  exact (state_pure_eq_ok.mp rest).symm

theorem lift {x : Except ε α} {a : α} (only : ∀ b, x = .ok b → b = a) :
    EmitsAt n (liftM x : StateT (List V) (Except ε) α) a [] := by
  rintro before ⟨b, after⟩ rfl done
  obtain ⟨result, rfl⟩ := state_lift_eq_ok.mp done
  rw [only b result, List.append_nil]

theorem ite {c : Prop} [Decidable c] {m m' : StateT (List V) (Except ε) α} {result : α}
    {values : List V} (yes : c → EmitsAt n m result values) (no : ¬c → EmitsAt n m' result values) :
    EmitsAt n (if c then m else m') result values := by
  split
  · exact yes ‹_›
  · exact no ‹_›

theorem congr {m : StateT (List V) (Except ε) α} {result result' : α} {values values' : List V}
    (emits : EmitsAt n m result values) (same : result = result') (equal : values = values') :
    EmitsAt n m result' values' := by
  rw [← same, ← equal]
  exact emits

end EmitsAt

/-- On success, `values` are appended and the result is `result` of the number of earlier
parameters. -/
def Emits (m : StateT (List V) (Except ε) α) (result : Nat → α) (values : List V) : Prop :=
  ∀ n, EmitsAt n m (result n) values

/-! ### When a program returns -/

/-- Started without parameters, the program returns. -/
def Returns (m : StateT (List V) (Except ε) α) : Prop :=
  ∃ out, m [] = .ok out

/-- If the first program returns from some parameters, the second one does from any. -/
def Together (m m' : StateT (List V) (Except ε) α) : Prop :=
  ∀ before before', (∃ out, m before = .ok out) → ∃ out, m' before' = .ok out

namespace Together

theorem pure (a a' : α) :
    Together (Pure.pure a : StateT (List V) (Except ε) α) (Pure.pure a') :=
  fun _ before' _ => ⟨(a', before'), rfl⟩

theorem throw (error : ε) (m : StateT (List V) (Except ε) α) :
    Together (MonadExcept.throw error : StateT (List V) (Except ε) α) m := by
  rintro before before' ⟨out, done⟩
  simp at done

theorem throw_bind (error : ε) (f : α → StateT (List V) (Except ε) β)
    (m : StateT (List V) (Except ε) β) : Together (MonadExcept.throw error >>= f) m := by
  rintro before before' ⟨out, done⟩
  simp at done

theorem lift (x : Except ε α) :
    Together (liftM x : StateT (List V) (Except ε) α) (liftM x) := by
  rintro before before' ⟨⟨a, after⟩, done⟩
  exact ⟨(a, before'), state_lift_eq_ok.mpr ⟨(state_lift_eq_ok.mp done).1, rfl⟩⟩

theorem bind {m m' : StateT (List V) (Except ε) α} {f f' : α → StateT (List V) (Except ε) β}
    (first : Together m m') (second : ∀ a a', Together (f a) (f' a')) :
    Together (m >>= f) (m' >>= f') := by
  rintro before before' ⟨out, done⟩
  obtain ⟨a, middle, start, rest⟩ := state_bind_eq_ok.mp done
  obtain ⟨⟨a', middle'⟩, start'⟩ := first before before' ⟨_, start⟩
  obtain ⟨out', rest'⟩ := second a a' middle middle' ⟨_, rest⟩
  exact ⟨out', state_bind_eq_ok.mpr ⟨a', middle', start', rest'⟩⟩

theorem ite {c : Prop} [Decidable c] {m m' n n' : StateT (List V) (Except ε) α}
    (yes : c → Together m m') (no : ¬c → Together n n') :
    Together (if c then m else n) (if c then m' else n') := by
  split
  · exact yes ‹_›
  · exact no ‹_›

theorem returns {m m' : StateT (List V) (Except ε) α} (together : Together m m')
    (returns : Returns m) : Returns m' :=
  together [] [] returns

end Together

@[simp] theorem returns_pure (a : α) : Returns (pure a : StateT (List V) (Except ε) α) :=
  ⟨(a, []), rfl⟩

/-- A sequence returns when both parts do, the second one after any result. -/
theorem returns_bind {m : StateT (List V) (Except ε) α} {f : α → StateT (List V) (Except ε) β}
    (steady : ∀ a a', Together (f a) (f a')) :
    Returns (m >>= f) ↔ Returns m ∧ ∀ a, Returns (f a) := by
  constructor
  · rintro ⟨out, done⟩
    obtain ⟨a, middle, start, rest⟩ := state_bind_eq_ok.mp done
    exact ⟨⟨_, start⟩, fun a' => steady a a' middle [] ⟨_, rest⟩⟩
  · rintro ⟨⟨⟨a, middle⟩, start⟩, rest⟩
    obtain ⟨out, done⟩ := steady a a [] middle (rest a)
    exact ⟨out, state_bind_eq_ok.mpr ⟨a, middle, start, done⟩⟩

/-- The second part may be judged after one chosen result. -/
theorem returns_bind_at {m : StateT (List V) (Except ε) α} {f : α → StateT (List V) (Except ε) β}
    (steady : ∀ a a', Together (f a) (f a')) (a₀ : α) :
    Returns (m >>= f) ↔ Returns m ∧ Returns (f a₀) := by
  rw [returns_bind steady]
  exact and_congr_right fun _ => ⟨fun all => all a₀, fun one a => (steady a₀ a).returns one⟩

/-- Working on the result does not change whether a program returns. -/
@[simp] theorem returns_map {m : StateT (List V) (Except ε) α} {f : α → β} :
    Returns (m >>= fun a => Pure.pure (f a)) ↔ Returns m := by
  rw [returns_bind fun a a' => Together.pure (f a) (f a')]
  simp

@[simp] theorem returns_lift {x : Except ε α} :
    Returns (liftM x : StateT (List V) (Except ε) α) ↔ ∃ a, x = .ok a := by
  constructor
  · rintro ⟨out, done⟩
    exact ⟨_, (state_lift_eq_ok.mp done).1⟩
  · rintro ⟨a, done⟩
    exact ⟨(a, []), state_lift_eq_ok.mpr ⟨done, rfl⟩⟩

/-! ### Success from some parameters -/

/-- The program returns from some parameters. -/
def Succeeds (m : StateT (List V) (Except ε) α) : Prop :=
  ∃ before out, m before = .ok out

namespace Succeeds

variable {γ δ ζ : Type} {m₁ : StateT (List V) (Except ε) α} {m₂ : StateT (List V) (Except ε) β}
  {m₃ : StateT (List V) (Except ε) γ} {m₄ : StateT (List V) (Except ε) δ}

/-- Where a sequence succeeds, its first program does, and the rest does after some result. -/
theorem bind {f : α → StateT (List V) (Except ε) β} (done : Succeeds (m₁ >>= f)) :
    Succeeds m₁ ∧ ∃ a, Succeeds (f a) := by
  obtain ⟨before, out, done⟩ := done
  obtain ⟨a, middle, start, rest⟩ := state_bind_eq_ok.mp done
  exact ⟨⟨before, _, start⟩, a, middle, out, rest⟩

theorem of_lift {x : Except ε α} (done : Succeeds (liftM x : StateT (List V) (Except ε) α)) :
    ∃ a, x = .ok a := by
  obtain ⟨before, out, done⟩ := done
  exact ⟨_, (state_lift_eq_ok.mp done).1⟩

theorem of_throw {error : ε} (done : Succeeds (throw error : StateT (List V) (Except ε) α)) :
    False := by
  obtain ⟨before, out, done⟩ := done
  simp at done

theorem one {f : α → ζ} (done : Succeeds (do return f (← m₁))) : Succeeds m₁ :=
  done.bind.1

theorem two {f : α → β → ζ}
    (done : Succeeds (do
      let a ← m₁
      let b ← m₂
      return f a b)) : Succeeds m₁ ∧ Succeeds m₂ := by
  obtain ⟨first, a, rest⟩ := done.bind
  exact ⟨first, rest.one⟩

theorem three {f : α → β → γ → ζ}
    (done : Succeeds (do
      let a ← m₁
      let b ← m₂
      let c ← m₃
      return f a b c)) : Succeeds m₁ ∧ Succeeds m₂ ∧ Succeeds m₃ := by
  obtain ⟨first, a, rest⟩ := done.bind
  exact ⟨first, rest.two⟩

theorem four {f : α → β → γ → δ → ζ}
    (done : Succeeds (do
      let a ← m₁
      let b ← m₂
      let c ← m₃
      let d ← m₄
      return f a b c d)) : Succeeds m₁ ∧ Succeeds m₂ ∧ Succeeds m₃ ∧ Succeeds m₄ := by
  obtain ⟨first, a, rest⟩ := done.bind
  exact ⟨first, rest.three⟩

end Succeeds
