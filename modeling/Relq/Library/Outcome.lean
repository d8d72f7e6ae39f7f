/-
Module: Relq.Library.Outcome
Layer: Library
Purpose: Success of computations in `Except`: when a sequence, a guard, a traversal or a map returns
  without an error, stated as equivalences so that a validator can be read backwards step by step.
Imports: none (Mathlib-free)
Trusted boundary: none (fully proved)
Main exports: bind_eq_ok, seq_eq_ok, forM_eq_ok, attach_forM_eq_ok, mapM_eq_ok, foldlM_invariant
-/

namespace Outcome

variable {ε α β : Type}

@[simp] theorem bind_eq_ok {x : Except ε α} {f : α → Except ε β} {b : β} :
    (x >>= f) = .ok b ↔ ∃ a, x = .ok a ∧ f a = .ok b := by
  cases x <;> simp [bind, Except.bind]

@[simp] theorem pure_eq_ok {a b : α} : (pure a : Except ε α) = .ok b ↔ a = b := by
  simp [pure, Except.pure]

@[simp] theorem throw_ne_ok {error : ε} {a : α} : (throw error : Except ε α) = .ok a ↔ False := by
  simp [throw, throwThe, MonadExceptOf.throw]

/-- A step that returns nothing, followed by another one. -/
@[simp] theorem seq_eq_ok {x : Except ε Unit} {f : Unit → Except ε β} {b : β} :
    (x >>= f) = .ok b ↔ x = .ok () ∧ f () = .ok b := by
  cases x <;> simp [bind, Except.bind]

/-- A traversal succeeds exactly when every visit does. -/
@[simp] theorem forM_eq_ok {items : List α} {visit : α → Except ε Unit} {u : Unit} :
    items.forM visit = .ok u ↔ ∀ item ∈ items, visit item = .ok () := by
  induction items with
  | nil => simp [List.forM, pure, Except.pure]
  | cons item rest ih =>
      have unfolded : (item :: rest).forM visit = (visit item >>= fun _ => rest.forM visit) := rfl
      rw [unfolded, seq_eq_ok, ih, List.forall_mem_cons]

/-- The same for a traversal that carries membership proofs along. -/
theorem attach_forM_eq_ok {items : List α} {visit : {item // item ∈ items} → Except ε Unit}
    {u : Unit} :
    items.attach.forM visit = .ok u ↔
      ∀ item, ∀ member : item ∈ items, visit ⟨item, member⟩ = .ok () := by
  rw [forM_eq_ok]
  constructor
  · intro all item member
    exact all ⟨item, member⟩ (by simp)
  · intro all item _
    exact all item.1 item.2

/-- A map succeeds exactly when it does so on every item. -/
theorem mapM_eq_ok {items : List α} {f : α → Except ε β} {results : List β} :
    items.mapM f = .ok results ↔ items.map f = results.map .ok := by
  induction items generalizing results with
  | nil => cases results <;> simp [pure, Except.pure]
  | cons item rest ih =>
      rw [List.mapM_cons]
      simp only [bind_eq_ok, pure_eq_ok, ih]
      cases results with
      | nil => simp
      | cons first others => simp

theorem map_eq_ok {x : Except ε α} {f : α → β} {b : β} :
    x.map f = .ok b ↔ ∃ a, x = .ok a ∧ f a = b := by
  cases x <;> simp [Except.map]

/-- What every step of a fold preserves, the whole fold preserves. -/
theorem foldlM_invariant {invariant : β → Prop} {step : β → α → Except ε β} {items : List α}
    (preserved : ∀ b, ∀ a ∈ items, ∀ b', invariant b → step b a = .ok b' → invariant b')
    {start result : β} (holds : invariant start) (done : items.foldlM step start = .ok result) :
    invariant result := by
  induction items generalizing start with
  | nil =>
      obtain rfl := pure_eq_ok.mp done
      exact holds
  | cons item rest ih =>
      rw [List.foldlM_cons] at done
      obtain ⟨next, first, later⟩ := bind_eq_ok.mp done
      exact ih (fun b a member => preserved b a (List.mem_cons_of_mem _ member))
        (preserved _ _ List.mem_cons_self _ holds first) later

/-! ### Computations with a state -/

section
variable {σ : Type}

@[simp] theorem state_bind_eq_ok {m : StateT σ (Except ε) α} {f : α → StateT σ (Except ε) β}
    {s : σ} {result : β × σ} :
    (m >>= f) s = .ok result ↔ ∃ a s', m s = .ok (a, s') ∧ f a s' = .ok result := by
  change (m s >>= fun next => f next.1 next.2) = .ok result ↔ _
  rw [bind_eq_ok]
  simp

@[simp] theorem state_pure_eq_ok {a : α} {s : σ} {result : α × σ} :
    (pure a : StateT σ (Except ε) α) s = .ok result ↔ (a, s) = result := by
  change (pure (a, s) : Except ε (α × σ)) = .ok result ↔ _
  rw [pure_eq_ok]

@[simp] theorem state_throw_eq_ok {error : ε} {s : σ} {result : α × σ} :
    (throw error : StateT σ (Except ε) α) s = .ok result ↔ False := by
  change (.error error : Except ε (α × σ)) = .ok result ↔ _
  simp

@[simp] theorem state_lift_eq_ok {x : Except ε α} {s : σ} {result : α × σ} :
    (liftM x : StateT σ (Except ε) α) s = .ok result ↔ x = .ok result.1 ∧ s = result.2 := by
  change (x >>= fun a => pure (a, s) : Except ε (α × σ)) = .ok result ↔ _
  rw [bind_eq_ok]
  obtain ⟨a, s'⟩ := result
  constructor
  · rintro ⟨a', done, same⟩
    simp only [pure_eq_ok, Prod.mk.injEq] at same
    exact ⟨same.1 ▸ done, same.2⟩
  · rintro ⟨done, same⟩
    exact ⟨a, done, by simpa using same⟩

end

end Outcome
