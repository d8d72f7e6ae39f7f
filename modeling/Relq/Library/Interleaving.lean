/-
Module: Relq.Library.Interleaving
Layer: Library
Purpose: Programs that run side by side over one shared state. A program is a finite tree of calls; what
  a call answers and what it makes of the shared state is a relation, so that calls may fail, wait or be
  answered in several ways. A discipline says what always holds of the shared state and what one process
  may rely on while others run; a program that keeps it is assured of its postcondition in every
  interleaving. Where calls can always be answered, every interleaving also comes to an end.
Imports: Mathlib.Logic.Hydra, Mathlib.Logic.Relation, Mathlib.Data.Fintype.Basic
Trusted boundary: none (fully proved)
Main exports: Program, Fallible, Fallible.Only, Fallible.Run, Config, Step, Discipline, Discipline.Assures, Discipline.Achieves,
  Discipline.Sound, Discipline.sound_of_reaches, Inevitable, Discipline.inevitable
-/
import Mathlib.Data.Fintype.Basic
import Mathlib.Logic.Hydra
import Mathlib.Logic.Relation

namespace Interleaving

/-! ### Programs -/

/-- A program that calls operations; how it goes on depends on what a call answers. -/
inductive Program (Op : Type) (Answer : Op → Type) (α : Type) where
  | done (value : α)
  | call (op : Op) (next : Answer op → Program Op Answer α)

namespace Program

variable {Op : Type} {Answer : Op → Type} {α β γ : Type}

def bind (p : Program Op Answer α) (f : α → Program Op Answer β) : Program Op Answer β :=
  match p with
  | .done value => f value
  | .call op next => .call op fun answer => (next answer).bind f

instance : Monad (Program Op Answer) where
  pure := .done
  bind := .bind

/-- `p` is what remains of a program after one call. -/
def After (p q : Program Op Answer α) : Prop :=
  ∃ op next answer, q = .call op next ∧ p = next answer

theorem wellFounded_after : WellFounded fun p q : Program Op Answer α => After p q := by
  refine ⟨fun p => ?_⟩
  induction p with
  | done value =>
      refine ⟨_, ?_⟩
      rintro q ⟨op, next, answer, impossible, -⟩
      cases impossible
  | call op next ih =>
      refine ⟨_, ?_⟩
      rintro q ⟨op', next', answer, same, rfl⟩
      cases same
      exact ih answer

/-! ### One program, whatever it is answered -/

/-- One way a program can go: its calls with what they answered, and its value. -/
inductive Run : Program Op Answer α → List (Σ op, Answer op) → α → Prop where
  | done (value : α) : Run (.done value) [] value
  | call {op : Op} {next : Answer op → Program Op Answer α} {answer : Answer op}
      {trace : List (Σ op, Answer op)} {value : α} (rest : Run (next answer) trace value) :
      Run (.call op next) (⟨op, answer⟩ :: trace) value

/-- All calls that a program can make are among these. -/
def Only (allowed : Op → Prop) : Program Op Answer α → Prop
  | .done _ => True
  | .call op next => allowed op ∧ ∀ answer, Only allowed (next answer)

variable {allowed : Op → Prop} {p : Program Op Answer α} {f : α → Program Op Answer β}

theorem Run.bind {trace : List (Σ op, Answer op)} {value : β} (run : Run (p.bind f) trace value) :
    ∃ first second mid, trace = first ++ second ∧ Run p first mid ∧ Run (f mid) second value := by
  induction p generalizing trace with
  | done mid => exact ⟨[], trace, mid, rfl, .done mid, run⟩
  | call op next ih =>
      cases run with
      | @call _ _ answer trace _ rest =>
          obtain ⟨first, second, mid, rfl, early, late⟩ := ih answer rest
          exact ⟨⟨op, answer⟩ :: first, second, mid, rfl, .call early, late⟩

theorem Only.bind (first : Only allowed p) (rest : ∀ value, Only allowed (f value)) :
    Only allowed (p.bind f) := by
  induction p with
  | done value => exact rest value
  | call op next ih => exact ⟨first.1, fun answer => ih answer (first.2 answer)⟩

theorem Only.of_run {trace : List (Σ op, Answer op)} {value : α} (only : Only allowed p)
    (run : Run p trace value) : ∀ entry ∈ trace, allowed entry.1 := by
  induction run with
  | done value => simp
  | call rest ih =>
      intro entry member
      rcases List.mem_cons.mp member with rfl | later
      · exact only.1
      · exact ih (only.2 _) entry later

end Program

/-! ### Programs that may raise -/

section Fallible

variable {Op : Type} {Result : Op → Type} {ε α β : Type}

/-- Every call answers with its result or raises. -/
abbrev Fallible (Op : Type) (Result : Op → Type) (ε α : Type) : Type :=
  ExceptT ε (Program Op fun op => Except ε (Result op)) α

def perform (op : Op) : Fallible Op Result ε (Result op) :=
  ExceptT.mk (.call op .done)

/-- The outcome of a program that may raise, as a value. -/
def attempt (body : Fallible Op Result ε α) : Fallible Op Result ε (Except ε α) :=
  ExceptT.mk (body.run.bind fun outcome => .done (.ok outcome))

/-- `try: body finally: cleanup`. -/
def ensuring (body : Fallible Op Result ε α) (cleanup : Fallible Op Result ε Unit) :
    Fallible Op Result ε α :=
  ExceptT.mk (body.run.bind fun
    | .ok value => (cleanup.run.bind fun
        | .ok () => .done (.ok value)
        | .error raised => .done (.error raised))
    | .error raised => (cleanup.run.bind fun
        | .ok () => .done (.error raised)
        | .error later => .done (.error later)))

namespace Fallible

variable (allowed : Op → Prop)

/-- All calls that a program can make are among these. -/
def Only (p : Fallible Op Result ε α) : Prop :=
  Program.Only allowed p.run

variable {allowed}

theorem only_pure (value : α) : Only allowed (pure value : Fallible Op Result ε α) :=
  trivial

theorem only_throw (raised : ε) : Only allowed (throw raised : Fallible Op Result ε α) :=
  trivial

theorem only_perform {op : Op} (permitted : allowed op) :
    Only allowed (perform op : Fallible Op Result ε (Result op)) :=
  ⟨permitted, fun _ => trivial⟩

theorem Only.bind {p : Fallible Op Result ε α} {f : α → Fallible Op Result ε β}
    (first : Only allowed p) (rest : ∀ value, Only allowed (f value)) : Only allowed (p >>= f) := by
  refine Program.Only.bind first fun outcome => ?_
  cases outcome with
  | ok value => exact rest value
  | error raised => trivial

theorem Only.attempt {p : Fallible Op Result ε α} (body : Only allowed p) :
    Only allowed (attempt p) :=
  Program.Only.bind body fun _ => trivial

theorem Only.catch {p : Fallible Op Result ε α} {handler : ε → Fallible Op Result ε α}
    (body : Only allowed p) (handles : ∀ e, Only allowed (handler e)) :
    Only allowed (tryCatch p handler : Fallible Op Result ε α) := by
  refine Program.Only.bind body fun outcome => ?_
  cases outcome with
  | ok value => trivial
  | error raised => exact handles raised

theorem Only.ensuring {body : Fallible Op Result ε α} {cleanup : Fallible Op Result ε Unit}
    (first : Only allowed body) (cleans : Only allowed cleanup) :
    Only allowed (ensuring body cleanup) := by
  refine Program.Only.bind first fun outcome => ?_
  cases outcome <;> refine Program.Only.bind cleans fun ended => ?_ <;> cases ended <;> trivial

/-- One way a program that may raise can go. -/
abbrev Run (p : Fallible Op Result ε α) (trace : List (Σ op, Except ε (Result op)))
    (outcome : Except ε α) : Prop :=
  Program.Run p.run trace outcome

variable {trace : List (Σ op, Except ε (Result op))}

theorem Only.of_run {p : Fallible Op Result ε α} {outcome : Except ε α} (only : Only allowed p)
    (run : Run p trace outcome) : ∀ entry ∈ trace, allowed entry.1 :=
  Program.Only.of_run only run

theorem run_pure {value : α} {outcome : Except ε α}
    (run : Run (pure value : Fallible Op Result ε α) trace outcome) :
    trace = [] ∧ outcome = .ok value := by
  cases run
  exact ⟨rfl, rfl⟩

theorem run_throw {raised : ε} {outcome : Except ε α}
    (run : Run (throw raised : Fallible Op Result ε α) trace outcome) :
    trace = [] ∧ outcome = .error raised := by
  cases run
  exact ⟨rfl, rfl⟩

theorem run_perform {op : Op} {outcome : Except ε (Result op)}
    (run : Run (perform op : Fallible Op Result ε (Result op)) trace outcome) :
    trace = [⟨op, outcome⟩] := by
  cases run with
  | call rest =>
      cases rest
      rfl

/-- Where a part raises, the rest is not run. -/
theorem run_bind {p : Fallible Op Result ε α} {f : α → Fallible Op Result ε β} {outcome : Except ε β}
    (run : Run (p >>= f) trace outcome) :
    (∃ raised, Run p trace (.error raised) ∧ outcome = .error raised) ∨
      ∃ first second value, trace = first ++ second ∧ Run p first (.ok value) ∧
        Run (f value) second outcome := by
  obtain ⟨first, second, mid, rfl, early, late⟩ := Program.Run.bind run
  cases mid with
  | ok value => exact .inr ⟨first, second, value, rfl, early, late⟩
  | error raised =>
      cases late
      exact .inl ⟨raised, by rwa [List.append_nil], rfl⟩

theorem run_attempt {p : Fallible Op Result ε α} {outcome : Except ε (Except ε α)}
    (run : Run (attempt p) trace outcome) : ∃ inner, outcome = .ok inner ∧ Run p trace inner := by
  obtain ⟨first, second, mid, rfl, early, late⟩ := Program.Run.bind run
  cases late
  exact ⟨mid, rfl, by rwa [List.append_nil]⟩

/-- The cleanup is run behind the body, however that ends. -/
theorem run_ensuring {body : Fallible Op Result ε α} {cleanup : Fallible Op Result ε Unit}
    {outcome : Except ε α} (run : Run (ensuring body cleanup) trace outcome) :
    ∃ first second result ended, trace = first ++ second ∧ Run body first result ∧
      Run cleanup second ended := by
  obtain ⟨first, second, mid, rfl, early, late⟩ := Program.Run.bind run
  cases mid with
  | ok value =>
      obtain ⟨third, fourth, ended, rfl, cleaned, last⟩ := Program.Run.bind late
      refine ⟨first, third, _, ended, ?_, early, cleaned⟩
      cases ended <;> cases last <;> rw [List.append_nil]
  | error raised =>
      obtain ⟨third, fourth, ended, rfl, cleaned, last⟩ := Program.Run.bind late
      refine ⟨first, third, _, ended, ?_, early, cleaned⟩
      cases ended <;> cases last <;> rw [List.append_nil]

end Fallible

end Fallible

/-! ### Running side by side -/

section Running

variable {ι σ Op : Type} {Answer : Op → Type} {α : Type}

/-- What a call of a process may answer, and what it makes of the shared state. -/
abbrev Effect (ι σ Op : Type) (Answer : Op → Type) : Type :=
  ι → (op : Op) → σ → Answer op → σ → Prop

structure Config (ι σ Op : Type) (Answer : Op → Type) (α : Type) where
  shared : σ
  running : ι → Program Op Answer α

variable [DecidableEq ι]

/-- One process makes one call. -/
inductive Step (effect : Effect ι σ Op Answer) :
    Config ι σ Op Answer α → Config ι σ Op Answer α → Prop where
  | call {c : Config ι σ Op Answer α} {i : ι} {op : Op} {next : Answer op → Program Op Answer α}
      {answer : Answer op} {s : σ} (current : c.running i = .call op next)
      (effected : effect i op c.shared answer s) :
      Step effect c ⟨s, Function.update c.running i (next answer)⟩

abbrev Reaches (effect : Effect ι σ Op Answer) :
    Config ι σ Op Answer α → Config ι σ Op Answer α → Prop :=
  Relation.ReflTransGen (Step effect)

/-- What is reached under one effect is reached under every wider one. -/
theorem reaches_mono {effect effect' : Effect ι σ Op Answer} {c c' : Config ι σ Op Answer α}
    (wider : ∀ i op s answer s', effect i op s answer s' → effect' i op s answer s')
    (reached : Reaches effect c c') : Reaches effect' c c' := by
  induction reached with
  | refl => exact .refl
  | tail _ step ih =>
      cases step with
      | call current effected => exact ih.tail (.call current (wider _ _ _ _ _ effected))

end Running

/-! ### Disciplines -/

/-- What always holds, what a process may rely on while others run, and what it owes when it makes a
call. -/
structure Discipline (ι σ Op : Type) where
  inv : σ → Prop
  rely : ι → σ → σ → Prop
  needs : ι → Op → σ → Prop
  rely_refl : ∀ i s, rely i s s
  rely_trans : ∀ i s s' s'', rely i s s' → rely i s' s'' → rely i s s''

namespace Discipline

variable {ι σ Op : Type} {Answer : Op → Type} {α β : Type}
variable (D : Discipline ι σ Op) (effect : Effect ι σ Op Answer) (i : ι)

/-- An assertion of process `i` that no other process can break. -/
def Stable (P : σ → Prop) : Prop :=
  ∀ s s', P s → D.rely i s s' → D.inv s' → P s'

/-- What a call by process `i` owes to the others. -/
def Permits (s s' : σ) : Prop :=
  D.inv s' ∧ ∀ j, j ≠ i → D.rely j s s'

/-- The program keeps the discipline from `s` on and, whatever the others do, ends in `post`. -/
def Assures (post : α → σ → Prop) : Program Op Answer α → σ → Prop
  | .done value, s => ∀ s', D.rely i s s' → D.inv s' → post value s'
  | .call op next, s => ∀ s', D.rely i s s' → D.inv s' → D.needs i op s' ∧
      ∀ answer s'', effect i op s' answer s'' →
        D.Permits i s' s'' ∧ Assures post (next answer) s''

variable {D effect i}

theorem stable_const (φ : Prop) : D.Stable i fun _ => φ :=
  fun _ _ holds _ _ => holds

theorem Stable.and {P Q : σ → Prop} (first : D.Stable i P) (second : D.Stable i Q) :
    D.Stable i fun s => P s ∧ Q s :=
  fun s s' holds between inv => ⟨first s s' holds.1 between inv, second s s' holds.2 between inv⟩

theorem stable_exists {γ : Type} {P : γ → σ → Prop} (each : ∀ x, D.Stable i (P x)) :
    D.Stable i fun s => ∃ x, P x s := by
  rintro s s' ⟨x, holds⟩ between inv
  exact ⟨x, each x s s' holds between inv⟩

theorem Assures.later {post : α → σ → Prop} {p : Program Op Answer α} {s s' : σ}
    (assured : D.Assures effect i post p s) (between : D.rely i s s') :
    D.Assures effect i post p s' := by
  cases p with
  | done value => exact fun s'' onward => assured s'' (D.rely_trans i _ _ _ between onward)
  | call op next => exact fun s'' onward => assured s'' (D.rely_trans i _ _ _ between onward)

theorem Assures.mono {post post' : α → σ → Prop} {p : Program Op Answer α} {s : σ}
    (assured : D.Assures effect i post p s)
    (weaker : ∀ value s', D.inv s' → post value s' → post' value s') :
    D.Assures effect i post' p s := by
  induction p generalizing s with
  | done value => exact fun s' between holds => weaker value s' holds (assured s' between holds)
  | call op next ih =>
      intro s' between holds
      obtain ⟨needed, onward⟩ := assured s' between holds
      refine ⟨needed, fun answer s'' effected => ?_⟩
      obtain ⟨permitted, rest⟩ := onward answer s'' effected
      exact ⟨permitted, ih answer rest⟩

theorem assures_bind {mid : α → σ → Prop} {post : β → σ → Prop} {p : Program Op Answer α}
    {f : α → Program Op Answer β} {s : σ} (inv : D.inv s)
    (first : D.Assures effect i mid p s)
    (rest : ∀ value s', D.inv s' → mid value s' → D.Assures effect i post (f value) s') :
    D.Assures effect i post (p.bind f) s := by
  induction p generalizing s with
  | done value => exact rest value s inv (first s (D.rely_refl i s) inv)
  | call op next ih =>
      intro s' between holds
      obtain ⟨needed, onward⟩ := first s' between holds
      refine ⟨needed, fun answer s'' effected => ?_⟩
      obtain ⟨permitted, assured⟩ := onward answer s'' effected
      exact ⟨permitted, ih answer permitted.1 assured⟩

theorem assures_done {post : α → σ → Prop} {value : α} {s : σ} (stable : D.Stable i (post value))
    (holds : post value s) : D.Assures effect i post (.done value) s :=
  fun s' between => stable s s' holds between

/-! ### Programs that may raise -/

section Fallible

variable {Result : Op → Type} {ε : Type}
variable {raising : Effect ι σ Op fun op => Except ε (Result op)}

/-- The rule of one call, between stable assertions. -/
theorem assures_perform {op : Op} {P : σ → Prop} {post : Except ε (Result op) → σ → Prop} {s : σ}
    (waiting : D.Stable i P) (replying : ∀ answer, D.Stable i (post answer))
    (holds : P s)
    (spec : ∀ s', D.inv s' → P s' → D.needs i op s' ∧ ∀ answer s'', raising i op s' answer s'' →
      D.Permits i s' s'' ∧ post answer s'') :
    D.Assures raising i post (perform op : Fallible Op Result ε (Result op)) s := by
  intro s' between inv
  obtain ⟨needed, effected⟩ := spec s' inv (waiting s s' holds between inv)
  refine ⟨needed, fun answer s'' moved => ?_⟩
  obtain ⟨permitted, ends⟩ := effected answer s'' moved
  exact ⟨permitted, assures_done (replying answer) ends⟩

theorem assures_pure {post : Except ε α → σ → Prop} {value : α} {s : σ}
    (stable : D.Stable i (post (.ok value))) (holds : post (.ok value) s) :
    D.Assures raising i post (pure value : Fallible Op Result ε α) s :=
  assures_done stable holds

theorem assures_throw {post : Except ε α → σ → Prop} {raised : ε} {s : σ}
    (stable : D.Stable i (post (.error raised))) (holds : post (.error raised) s) :
    D.Assures raising i post (throw raised : Fallible Op Result ε α) s :=
  assures_done stable holds

theorem assures_seq {mid : Except ε α → σ → Prop} {post : Except ε β → σ → Prop}
    {p : Fallible Op Result ε α} {f : α → Fallible Op Result ε β} {s : σ} (inv : D.inv s)
    (first : D.Assures raising i mid p s)
    (rest : ∀ value s', D.inv s' → mid (.ok value) s' → D.Assures raising i post (f value) s')
    (raised : ∀ e, D.Stable i (post (.error e)))
    (fails : ∀ e s', D.inv s' → mid (.error e) s' → post (.error e) s') :
    D.Assures raising i post (p >>= f : Fallible Op Result ε β) s := by
  refine assures_bind inv first fun result s' inv' holds => ?_
  cases result with
  | ok value => exact rest value s' inv' holds
  | error e => exact assures_done (raised e) (fails e s' inv' holds)

theorem assures_catch {mid : Except ε α → σ → Prop} {post : Except ε α → σ → Prop}
    {p : Fallible Op Result ε α} {handler : ε → Fallible Op Result ε α} {s : σ} (inv : D.inv s)
    (first : D.Assures raising i mid p s)
    (returned : ∀ value, D.Stable i (post (.ok value)))
    (returns : ∀ value s', D.inv s' → mid (.ok value) s' → post (.ok value) s')
    (handles : ∀ e s', D.inv s' → mid (.error e) s' → D.Assures raising i post (handler e) s') :
    D.Assures raising i post (tryCatch p handler : Fallible Op Result ε α) s := by
  refine assures_bind inv first fun result s' inv' holds => ?_
  cases result with
  | ok value => exact assures_done (returned value) (returns value s' inv' holds)
  | error e => exact handles e s' inv' holds

theorem assures_attempt {mid : Except ε α → σ → Prop} {p : Fallible Op Result ε α} {s : σ}
    (inv : D.inv s) (first : D.Assures raising i mid p s) (settled : ∀ outcome, D.Stable i (mid outcome)) :
    D.Assures raising i (fun
      | .ok outcome => mid outcome
      | .error _ => fun _ => False) (attempt p) s :=
  assures_bind inv first fun outcome _ _ holds => assures_done (settled outcome) holds

theorem assures_ensuring {mid : Except ε α → σ → Prop} {post : Except ε α → σ → Prop}
    {body : Fallible Op Result ε α} {cleanup : Fallible Op Result ε Unit} {s : σ} (inv : D.inv s)
    (first : D.Assures raising i mid body s)
    (settled : ∀ result, D.Stable i (post result))
    (cleans : ∀ result s', D.inv s' → mid result s' → D.Assures raising i (fun
      | .ok () => post result
      | .error e => post (.error e)) cleanup s') :
    D.Assures raising i post (ensuring body cleanup) s := by
  refine assures_bind inv first fun result s' inv' holds => ?_
  cases result with
  | ok value =>
      refine assures_bind inv' (cleans _ s' inv' holds) fun outcome s'' _ ends => ?_
      cases outcome with
      | ok _ => exact assures_done (settled _) ends
      | error e => exact assures_done (settled _) ends
  | error raised =>
      refine assures_bind inv' (cleans _ s' inv' holds) fun outcome s'' _ ends => ?_
      cases outcome with
      | ok _ => exact assures_done (settled _) ends
      | error e => exact assures_done (settled _) ends

end Fallible

/-! ### Programs between assertions -/

section Between

variable {Result : Op → Type} {ε : Type}

/-- What holds where a program returns, and what where it raises. -/
def Ends (returns : α → σ → Prop) (raises : ε → σ → Prop) : Except ε α → σ → Prop
  | .ok value => returns value
  | .error raised => raises raised

/-- Wherever `P` holds, the program keeps the discipline and ends in `returns` or `raises`. -/
def Achieves (D : Discipline ι σ Op) (raising : Effect ι σ Op fun op => Except ε (Result op)) (i : ι)
    (P : σ → Prop) (p : Fallible Op Result ε α) (returns : α → σ → Prop) (raises : ε → σ → Prop) :
    Prop :=
  ∀ s, D.inv s → P s → D.Assures raising i (Ends returns raises) p s

variable {raising : Effect ι σ Op fun op => Except ε (Result op)}
variable {P : σ → Prop} {returns : α → σ → Prop} {raises : ε → σ → Prop}

theorem Achieves.of_pre {P' : σ → Prop} {p : Fallible Op Result ε α}
    (achieved : D.Achieves raising i P p returns raises) (pre : ∀ s, D.inv s → P' s → P s) :
    D.Achieves raising i P' p returns raises :=
  fun s inv holds => achieved s inv (pre s inv holds)

theorem Achieves.mono {returns' : α → σ → Prop} {raises' : ε → σ → Prop}
    {p : Fallible Op Result ε α} (achieved : D.Achieves raising i P p returns raises)
    (returned : ∀ value s, D.inv s → returns value s → returns' value s)
    (raised : ∀ e s, D.inv s → raises e s → raises' e s) :
    D.Achieves raising i P p returns' raises' := by
  intro s inv holds
  refine (achieved s inv holds).mono fun result s' inv' ends => ?_
  cases result with
  | ok value => exact returned value s' inv' ends
  | error e => exact raised e s' inv' ends

/-- A fact of the precondition that is not about the state may be assumed. -/
theorem achieves_given {φ : Prop} {p : Fallible Op Result ε α}
    (achieved : φ → D.Achieves raising i P p returns raises) :
    D.Achieves raising i (fun s => φ ∧ P s) p returns raises :=
  fun s inv holds => achieved holds.1 s inv holds.2

theorem achieves_exists {γ : Type} {P : γ → σ → Prop} {p : Fallible Op Result ε α}
    (achieved : ∀ x, D.Achieves raising i (P x) p returns raises) :
    D.Achieves raising i (fun s => ∃ x, P x s) p returns raises := by
  rintro s inv ⟨x, holds⟩
  exact achieved x s inv holds

theorem achieves_call {op : Op} {returns : Result op → σ → Prop} (waiting : D.Stable i P)
    (returned : ∀ value, D.Stable i (returns value)) (raised : ∀ e, D.Stable i (raises e))
    (needed : ∀ s, D.inv s → P s → D.needs i op s)
    (succeeds : ∀ s value s', D.inv s → P s → raising i op s (.ok value) s' →
      D.Permits i s s' ∧ returns value s')
    (fails : ∀ s e s', D.inv s → P s → raising i op s (.error e) s' →
      D.Permits i s s' ∧ raises e s') :
    D.Achieves raising i P (perform op : Fallible Op Result ε (Result op)) returns raises := by
  intro s inv holds
  refine assures_perform waiting (fun answer => ?_) holds fun s' inv' still =>
    ⟨needed s' inv' still, fun answer s'' moved => ?_⟩
  · cases answer with
    | ok value => exact returned value
    | error e => exact raised e
  · cases answer with
    | ok value => exact succeeds s' value s'' inv' still moved
    | error e => exact fails s' e s'' inv' still moved

theorem achieves_pure {value : α} (returned : D.Stable i (returns value))
    (holds : ∀ s, D.inv s → P s → returns value s) :
    D.Achieves raising i P (pure value : Fallible Op Result ε α) returns raises :=
  fun s inv pre => assures_pure returned (holds s inv pre)

theorem achieves_throw {raised : ε} (stable : D.Stable i (raises raised))
    (holds : ∀ s, D.inv s → P s → raises raised s) :
    D.Achieves raising i P (throw raised : Fallible Op Result ε α) returns raises :=
  fun s inv pre => assures_throw stable (holds s inv pre)

theorem Achieves.bind {mid : α → σ → Prop} {returns : β → σ → Prop} {p : Fallible Op Result ε α}
    {f : α → Fallible Op Result ε β} (first : D.Achieves raising i P p mid raises)
    (raised : ∀ e, D.Stable i (raises e))
    (rest : ∀ value, D.Achieves raising i (mid value) (f value) returns raises) :
    D.Achieves raising i P (p >>= f) returns raises :=
  fun s inv holds => assures_seq inv (first s inv holds)
    (fun value s' inv' here => rest value s' inv' here) raised fun _ _ _ failed => failed

theorem Achieves.catch {mid : ε → σ → Prop} {p : Fallible Op Result ε α}
    {handler : ε → Fallible Op Result ε α} (body : D.Achieves raising i P p returns mid)
    (returned : ∀ value, D.Stable i (returns value))
    (handles : ∀ e, D.Achieves raising i (mid e) (handler e) returns raises) :
    D.Achieves raising i P (tryCatch p handler) returns raises :=
  fun s inv holds => assures_catch inv (body s inv holds) returned (fun _ _ _ done => done)
    fun e s' inv' failed => handles e s' inv' failed

theorem Achieves.attempt {p : Fallible Op Result ε α}
    (body : D.Achieves raising i P p returns raises)
    (never : ε → σ → Prop) (returned : ∀ value, D.Stable i (returns value))
    (raised : ∀ e, D.Stable i (raises e)) :
    D.Achieves raising i P (attempt p) (Ends returns raises) never := by
  intro s inv holds
  refine (assures_attempt inv (body s inv holds) fun outcome => ?_).mono fun result _ _ ends => ?_
  · cases outcome with
    | ok value => exact returned value
    | error e => exact raised e
  · cases result with
    | ok outcome => exact ends
    | error e => exact ends.elim

theorem Achieves.ensuring {mid : α → σ → Prop} {raises' : ε → σ → Prop}
    {body : Fallible Op Result ε α} {cleanup : Fallible Op Result ε Unit}
    (first : D.Achieves raising i P body mid raises)
    (returned : ∀ value, D.Stable i (returns value)) (raised : ∀ e, D.Stable i (raises' e))
    (cleans : ∀ value, D.Achieves raising i (mid value) cleanup (fun _ => returns value) raises')
    (recovers : ∀ e, D.Achieves raising i (raises e) cleanup (fun _ => raises' e) raises') :
    D.Achieves raising i P (ensuring body cleanup) returns raises' := by
  intro s inv holds
  refine assures_ensuring inv (first s inv holds) (fun result => ?_) fun result s' inv' ends => ?_
  · cases result with
    | ok value => exact returned value
    | error e => exact raised e
  · cases result with
    | ok value =>
        refine (cleans value s' inv' ends).mono fun outcome _ _ done => ?_
        cases outcome <;> exact done
    | error e =>
        refine (recovers e s' inv' ends).mono fun outcome _ _ done => ?_
        cases outcome <;> exact done

end Between

/-! ### Every interleaving -/

section Interleaved

variable [DecidableEq ι] {post : ι → α → σ → Prop}

/-- Every process that is running is assured of its postcondition. -/
def Sound (D : Discipline ι σ Op) (effect : Effect ι σ Op Answer) (post : ι → α → σ → Prop)
    (c : Config ι σ Op Answer α) : Prop :=
  D.inv c.shared ∧ ∀ i, D.Assures effect i (post i) (c.running i) c.shared

theorem sound_step {c c' : Config ι σ Op Answer α} (sound : D.Sound effect post c)
    (step : Step effect c c') : D.Sound effect post c' := by
  obtain ⟨inv, assured⟩ := sound
  cases step with
  | @call i op next answer s current effected =>
      have turn := assured i
      rw [current] at turn
      obtain ⟨-, onward⟩ := turn c.shared (D.rely_refl i _) inv
      obtain ⟨⟨inv', permitted⟩, rest⟩ := onward answer s effected
      refine ⟨inv', fun j => ?_⟩
      by_cases same : j = i
      · subst same
        simpa using rest
      · change D.Assures effect j (post j) (Function.update c.running i (next answer) j) s
        rw [Function.update_of_ne same]
        exact (assured j).later (permitted j same)

theorem sound_of_reaches {c c' : Config ι σ Op Answer α} (sound : D.Sound effect post c)
    (reached : Reaches effect c c') : D.Sound effect post c' := by
  induction reached with
  | refl => exact sound
  | tail _ step ih => exact sound_step ih step

omit [DecidableEq ι] in
theorem Sound.post_of_done {c : Config ι σ Op Answer α} (sound : D.Sound effect post c) {i : ι}
    {value : α} (done : c.running i = .done value) : post i value c.shared := by
  have assured := sound.2 i
  rw [done] at assured
  exact assured c.shared (D.rely_refl i _) sound.1

omit [DecidableEq ι] in
theorem Sound.needs_of_call {c : Config ι σ Op Answer α} (sound : D.Sound effect post c) {i : ι}
    {op : Op} {next : Answer op → Program Op Answer α} (current : c.running i = .call op next) :
    D.needs i op c.shared := by
  have assured := sound.2 i
  rw [current] at assured
  exact (assured c.shared (D.rely_refl i _) sound.1).1

end Interleaved

end Discipline

/-! ### Every interleaving ends -/

/-- Whatever steps are taken from here, as long as one can be taken, `goal` is met. -/
inductive Inevitable {γ : Type} (step : γ → γ → Prop) (goal : γ → Prop) : γ → Prop where
  | now {c : γ} (met : goal c) : Inevitable step goal c
  | later {c : γ} (goes : ∃ c', step c c') (onward : ∀ c', step c c' → Inevitable step goal c') :
      Inevitable step goal c

theorem Inevitable.mono {γ : Type} {step : γ → γ → Prop} {goal goal' : γ → Prop} {c : γ}
    (certain : Inevitable step goal c) (weaker : ∀ c', goal c' → goal' c') :
    Inevitable step goal' c := by
  induction certain with
  | now met => exact .now (weaker _ met)
  | later goes _ ih => exact .later goes ih

/-- Some steps do lead there. -/
theorem Inevitable.reached {γ : Type} {step : γ → γ → Prop} {goal : γ → Prop} {c : γ}
    (certain : Inevitable step goal c) : ∃ c', Relation.ReflTransGen step c c' ∧ goal c' := by
  induction certain with
  | now met => exact ⟨_, .refl, met⟩
  | later goes _ ih =>
      obtain ⟨next, first⟩ := goes
      obtain ⟨c', later, met⟩ := ih next first
      exact ⟨c', .head first later, met⟩

section Ending

variable {ι σ Op : Type} {Answer : Op → Type} {α : Type} [DecidableEq ι]

/-- One of the programs has made one call. -/
def Turn (f g : ι → Program Op Answer α) : Prop :=
  ∃ i p, Program.After p (g i) ∧ f = Function.update g i p

theorem update_map_add [Fintype ι] {γ : Type} (g : ι → γ) (i : ι) (x : γ) :
    Finset.univ.val.map (Function.update g i x) + {g i} = Finset.univ.val.map g + {x} := by
  obtain ⟨others, split⟩ := Multiset.exists_cons_of_mem (Finset.mem_univ_val i)
  have distinct : (i ::ₘ others).Nodup := split ▸ (Finset.univ : Finset ι).nodup
  have absent : i ∉ others := (Multiset.nodup_cons.mp distinct).1
  have kept : others.map (Function.update g i x) = others.map g :=
    Multiset.map_congr rfl fun j member => by
      refine Function.update_of_ne ?_ _ _
      rintro rfl
      exact absent member
  rw [split, Multiset.map_cons, Multiset.map_cons, kept, Function.update_self,
    ← Multiset.singleton_add, ← Multiset.singleton_add, add_right_comm,
    add_comm ({x} : Multiset γ) {g i}, add_right_comm]

theorem wellFounded_turn [Fintype ι] :
    WellFounded fun f g : ι → Program Op Answer α => Turn f g := by
  refine Subrelation.wf ?_
    (InvImage.wf (fun f => (Finset.univ : Finset ι).val.map f) Program.wellFounded_after.cutExpand)
  rintro f g ⟨i, p, after, rfl⟩
  refine ⟨{p}, g i, fun q member => ?_, update_map_add g i p⟩
  rw [Multiset.mem_singleton.mp member]
  exact after

theorem Step.turn {effect : Effect ι σ Op Answer} {c c' : Config ι σ Op Answer α}
    (step : Step effect c c') : Turn c'.running c.running := by
  cases step with
  | @call i op next answer s current effected =>
      exact ⟨i, next answer, ⟨op, next, answer, current, rfl⟩, rfl⟩

/-- Programs are finite: where one of them can always go on, all of them end. -/
theorem Discipline.inevitable [Fintype ι] {D : Discipline ι σ Op} {effect : Effect ι σ Op Answer}
    {post : ι → α → σ → Prop}
    (goes : ∀ c, D.Sound effect post c →
      (∀ i, ∃ value, c.running i = .done value) ∨ ∃ c', Step effect c c')
    {c : Config ι σ Op Answer α} (sound : D.Sound effect post c) :
    Inevitable (Step effect) (fun c' => D.inv c'.shared ∧ ∀ i, ∃ value,
      c'.running i = .done value ∧ post i value c'.shared) c := by
  have ends : ∀ running : ι → Program Op Answer α, ∀ c : Config ι σ Op Answer α, c.running = running →
      D.Sound effect post c → Inevitable (Step effect) (fun c' => D.inv c'.shared ∧ ∀ i, ∃ value,
        c'.running i = .done value ∧ post i value c'.shared) c := by
    intro running
    have founded : WellFounded fun f g : ι → Program Op Answer α => Turn f g := wellFounded_turn
    induction running using founded.induction with | _ running ih => ?_
    rintro c rfl sound
    rcases goes c sound with done | next
    · refine .now ⟨sound.1, fun i => ?_⟩
      obtain ⟨value, returned⟩ := done i
      exact ⟨value, returned, sound.post_of_done returned⟩
    · refine .later next fun c' step => ?_
      exact ih c'.running step.turn c' rfl (sound_step sound step)
  exact ends c.running c rfl sound

end Ending

end Interleaving
