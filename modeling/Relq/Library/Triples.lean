/-
Module: Relq.Library.Triples
Layer: Library
Purpose: Hoare triples for computations that may raise and keep the state they raised in. A triple
  has a postcondition for a normal return and one for a raised exception, so that a handler can be
  verified against what its body leaves behind.
Imports: none (Mathlib-free)
Trusted boundary: none (fully proved)
Main exports: Triple, Triple.pure, Triple.throw, Triple.bind, Triple.tryCatch, Triple.modify,
  Triple.get, Triple.weaken, after, after_bind, after_tryCatch, after_tryFinally
-/

namespace Triples

variable {ε σ α β : Type}

/-- From every state in `pre`, the computation returns into `post` or raises into `raised`. -/
def Triple (pre : σ → Prop) (m : ExceptT ε (StateM σ) α) (post : α → σ → Prop)
    (raised : ε → σ → Prop) : Prop :=
  ∀ s, pre s →
    match m.run.run s with
    | (.ok a, s') => post a s'
    | (.error error, s') => raised error s'

namespace Triple

variable {pre pre' : σ → Prop} {post post' : α → σ → Prop} {raised raised' : ε → σ → Prop}

theorem weaken {m : ExceptT ε (StateM σ) α} (triple : Triple pre m post raised)
    (entry : ∀ s, pre' s → pre s) (exit : ∀ a s, post a s → post' a s)
    (failure : ∀ error s, raised error s → raised' error s) : Triple pre' m post' raised' := by
  intro s holds
  have := triple s (entry s holds)
  revert this
  rcases m.run.run s with ⟨error | a, s'⟩
  · exact failure error s'
  · exact exit a s'

theorem pure (a : α) : Triple (post a) (pure a : ExceptT ε (StateM σ) α) post raised :=
  fun _ holds => holds

theorem throw (error : ε) : Triple (raised error) (throw error : ExceptT ε (StateM σ) α) post raised :=
  fun _ holds => holds

theorem run_bind (m : ExceptT ε (StateM σ) α) (f : α → ExceptT ε (StateM σ) β) (s : σ) :
    (m >>= f).run.run s =
      match m.run.run s with
      | (.ok a, s') => (f a).run.run s'
      | (.error error, s') => (.error error, s') := by
  rw [ExceptT.run_bind, StateT.run_bind]
  rcases m.run.run s with ⟨error | a, s'⟩ <;> rfl

theorem run_tryCatch (m : ExceptT ε (StateM σ) α) (handler : ε → ExceptT ε (StateM σ) α) (s : σ) :
    (MonadExcept.tryCatch m handler).run.run s =
      match m.run.run s with
      | (.ok a, s') => (.ok a, s')
      | (.error error, s') => (handler error).run.run s' := by
  rw [ExceptT.run_tryCatch, StateT.run_bind]
  rcases m.run.run s with ⟨error | a, s'⟩ <;> rfl

/-- The second computation starts where the first one returned. -/
theorem bind {m : ExceptT ε (StateM σ) α} {f : α → ExceptT ε (StateM σ) β} {M : α → σ → Prop}
    {post : β → σ → Prop} (first : Triple pre m M raised)
    (second : ∀ a, Triple (M a) (f a) post raised) : Triple pre (m >>= f) post raised := by
  intro s holds
  have start := first s holds
  rw [run_bind]
  revert start
  rcases m.run.run s with ⟨error | a, s'⟩
  · exact id
  · exact fun reached => second a s' reached

/-- A handler starts where its body raised. -/
theorem tryCatch {m : ExceptT ε (StateM σ) α} {handler : ε → ExceptT ε (StateM σ) α}
    {M : ε → σ → Prop} (body : Triple pre m post M)
    (handled : ∀ error, Triple (M error) (handler error) post raised) :
    Triple pre (MonadExcept.tryCatch m handler) post raised := by
  intro s holds
  have start := body s holds
  rw [run_tryCatch]
  revert start
  rcases m.run.run s with ⟨error | a, s'⟩
  · exact fun reached => handled error s' reached
  · exact id

theorem modify {post : Unit → σ → Prop} (f : σ → σ) :
    Triple (fun s => post () (f s)) (modify f : ExceptT ε (StateM σ) Unit) post raised :=
  fun _ holds => holds

theorem get {post : σ → σ → Prop} :
    Triple (fun s => post s s) (get : ExceptT ε (StateM σ) σ) post raised :=
  fun _ holds => holds

end Triple

/-! ### What a computation leaves behind -/

/-- The result of a computation and the state it ends in. -/
def after (m : ExceptT ε (StateM σ) α) (s : σ) : Except ε α × σ :=
  m.run.run s

@[simp] theorem after_pure (a : α) (s : σ) :
    after (pure a : ExceptT ε (StateM σ) α) s = (.ok a, s) := rfl

@[simp] theorem after_throw (error : ε) (s : σ) :
    after (throw error : ExceptT ε (StateM σ) α) s = (.error error, s) := rfl

@[simp] theorem after_get (s : σ) : after (get : ExceptT ε (StateM σ) σ) s = (.ok s, s) := rfl

@[simp] theorem after_modify (f : σ → σ) (s : σ) :
    after (modify f : ExceptT ε (StateM σ) Unit) s = (.ok (), f s) := rfl

theorem after_bind (m : ExceptT ε (StateM σ) α) (f : α → ExceptT ε (StateM σ) β) (s : σ) :
    after (m >>= f) s =
      match after m s with
      | (.ok a, s') => after (f a) s'
      | (.error error, s') => (.error error, s') :=
  Triple.run_bind m f s

theorem after_tryCatch (m : ExceptT ε (StateM σ) α) (handler : ε → ExceptT ε (StateM σ) α) (s : σ) :
    after (MonadExcept.tryCatch m handler) s =
      match after m s with
      | (.ok a, s') => (.ok a, s')
      | (.error error, s') => after (handler error) s' :=
  Triple.run_tryCatch m handler s

/-- An exception of the last part takes the place of the result. -/
theorem after_tryFinally (body : ExceptT ε (StateM σ) α) (last : ExceptT ε (StateM σ) Unit) (s : σ) :
    after (tryFinally body last) s =
      match after body s with
      | (outcome, s') =>
        match after last s' with
        | (.ok _, s'') => (outcome, s'')
        | (.error error, s'') => (.error error, s'') := by
  unfold after tryFinally
  simp only [Functor.map, ExceptT.map, ExceptT.mk, ExceptT.run, StateT.run, bind, StateT.bind]
  rcases first : body s with ⟨error | a, s'⟩ <;> rcases second : last s' with ⟨error | _, s''⟩ <;>
    simp only [tryFinally', ExceptT.mk, bind, StateT.bind, first, second] <;> rfl

end Triples
