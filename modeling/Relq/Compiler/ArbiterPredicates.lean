/-
Module: Relq.Compiler.ArbiterPredicates
Layer: Compiler
Purpose: The predicates of conflict targets, which are rendered by a function of their own with
  constants in place of parameters. Its text is that of the general renderer with each placeholder
  replaced by a constant, and PostgreSQL reads each constant, where it stands, as the bound value.
Imports: Relq.Library.EscapeStrings, Relq.Library.Outcome, Relq.Compiler.Render
Trusted boundary: human-reviewed spec (inlined, characters, readConstant, delimits)
Main exports: inlined, readConstant, delimits, readConstant_constant, arbiterPredicate_agrees
-/
import Relq.Library.EscapeStrings
import Relq.Library.Outcome
import Relq.Compiler.Render

namespace Relq

open Outcome

variable {V : Type}

/-! ### Constants in PostgreSQL's text -/

/-- The characters of a text, as PostgreSQL receives them. -/
def characters (text : Text) : List Char :=
  text.flatMap fun lexeme => (lexeme.print postgres).toList

/-- The characters that carry a keyword or a number on. -/
def carriesOn (c : Char) : Bool :=
  c.isAlphanum || c = '-' || c = '_' || c = '$' || c = '.' || 128 ≤ c.toNat

/-- A decimal numeral. -/
def readDigits (digits : List Char) : Option Nat :=
  if digits ≠ [] ∧ digits.all Char.isDigit = true then some (Nat.ofDigitChars 10 digits 0) else none

/-- What a keyword or a number denotes; the sign belongs to it. -/
def readWord : List Char → Option PyView
  | ['n', 'u', 'l', 'l'] => some .none
  | ['t', 'r', 'u', 'e'] => some (.bool true)
  | ['f', 'a', 'l', 's', 'e'] => some (.bool false)
  | '-' :: digits => (readDigits digits).map fun (magnitude : Nat) => .int (-magnitude)
  | digits => (readDigits digits).map fun (magnitude : Nat) => .int magnitude

/-- The constant at the front of a text: what it denotes, and what follows it. -/
def readConstant (standardConforming : Bool) (text : List Char) : Option (PyView × List Char) :=
  match EscapeStrings.readString standardConforming text with
  | some (value, rest) => some (.str (String.ofList value), rest)
  | none => (readWord (text.takeWhile carriesOn)).map fun value =>
      (value, text.dropWhile carriesOn)

/-- A constant is over where a bracket closes, a comma stands, or an operator follows a space. -/
def delimits : List Char → Bool
  | [] => true
  | ' ' :: c :: _ => c.isAlpha || c = '=' || c = '<' || c = '>'
  | c :: _ => c = ')' || c = ','

theorem delimits_cases {rest : List Char} (over_ : delimits rest = true) :
    rest = [] ∨ (∃ more, rest = ')' :: more) ∨ (∃ more, rest = ',' :: more) ∨
      ∃ c more, rest = ' ' :: c :: more ∧
        (c.isAlpha = true ∨ c = '=' ∨ c = '<' ∨ c = '>') := by
  unfold delimits at over_
  split at over_
  · exact .inl rfl
  · simp only [Bool.or_eq_true, decide_eq_true_eq, or_assoc] at over_
    exact .inr (.inr (.inr ⟨_, _, rfl, over_⟩))
  · simp only [Bool.or_eq_true, decide_eq_true_eq] at over_
    rcases over_ with rfl | rfl
    · exact .inr (.inl ⟨_, rfl⟩)
    · exact .inr (.inr (.inl ⟨_, rfl⟩))

/-- Such a place ends a string constant. -/
theorem ends_of_delimits {rest : List Char} (over_ : delimits rest = true) :
    EscapeStrings.Ends rest := by
  rcases delimits_cases over_ with rfl | ⟨_, rfl⟩ | ⟨_, rfl⟩ | ⟨c, more, rfl, operator⟩
  · exact ⟨by simp, rfl⟩
  · exact ⟨by simp, by simp [EscapeStrings.reopened]⟩
  · exact ⟨by simp, by simp [EscapeStrings.reopened]⟩
  · refine ⟨by simp, ?_⟩
    rw [EscapeStrings.reopened_space]
    refine EscapeStrings.reopened_other fun white => ?_
    simp only [List.mem_cons, List.not_mem_nil, or_false] at white
    rcases white with rfl | rfl | rfl | rfl | rfl | rfl | rfl | rfl <;> revert operator <;> decide

/-- And it ends a keyword or a number. -/
theorem carriesOn_of_delimits {rest : List Char} (over_ : delimits rest = true) :
    ∀ c ∈ rest.head?, carriesOn c = false := by
  rcases delimits_cases over_ with rfl | ⟨_, rfl⟩ | ⟨_, rfl⟩ | ⟨_, _, rfl, -⟩
  · intro c member
    cases member
  all_goals
    rintro c ⟨⟩
    decide

theorem takeWhile_token {token rest : List Char} (all : ∀ c ∈ token, carriesOn c = true)
    (over_ : delimits rest = true) :
    (token ++ rest).takeWhile carriesOn = token ∧ (token ++ rest).dropWhile carriesOn = rest := by
  have stops := carriesOn_of_delimits over_
  rw [List.takeWhile_append_of_pos all, List.dropWhile_append_of_pos all]
  cases rest with
  | nil => simp
  | cons c rest =>
      have stop := stops c rfl
      simp [stop]

/-- A keyword or a number is read as far as it goes. -/
theorem readConstant_word {token rest : List Char} {value : PyView} (standardConforming : Bool)
    (all : ∀ c ∈ token, carriesOn c = true) (read : readWord token = some value)
    (noString : EscapeStrings.readString standardConforming (token ++ rest) = none)
    (over_ : delimits rest = true) :
    readConstant standardConforming (token ++ rest) = some (value, rest) := by
  obtain ⟨taken, dropped⟩ := takeWhile_token all over_
  rw [readConstant, noString]
  simp only [taken, dropped, read, Option.map_some]

theorem readDigits_repr (n : Nat) : readDigits n.repr.toList = some n := by
  rw [Nat.toList_repr, readDigits, if_pos]
  · rw [Nat.ofDigitChars_ten_toDigits]
  · refine ⟨Nat.toDigits_ne_nil, List.all_eq_true.mpr fun c member => ?_⟩
    exact Nat.isDigit_of_mem_toDigits (by decide) (by decide) member

theorem readWord_digits {digits : List Char} (all : ∀ c ∈ digits, c.isDigit = true) :
    readWord digits = (readDigits digits).map fun (magnitude : Nat) => .int magnitude := by
  rw [readWord.eq_def]
  split
  · exact absurd (all 'n' List.mem_cons_self) (by decide)
  · exact absurd (all 't' List.mem_cons_self) (by decide)
  · exact absurd (all 'f' List.mem_cons_self) (by decide)
  · exact absurd (all '-' List.mem_cons_self) (by decide)
  · rfl

theorem isDigit_repr (n : Nat) : ∀ c ∈ n.repr.toList, c.isDigit = true := by
  rw [Nat.toList_repr]
  exact fun c member => Nat.isDigit_of_mem_toDigits (by decide) (by decide) member

theorem readWord_repr (n : Int) : readWord n.repr.toList = some (.int n) := by
  rw [Int.repr_eq_if]
  split
  · rename_i positive
    rw [readWord_digits (isDigit_repr _), readDigits_repr, Option.map_some, Int.toNat_of_nonneg positive]
  · rename_i negative
    rw [String.toList_append]
    change (readDigits (-n).toNat.repr.toList).map _ = _
    rw [readDigits_repr, Option.map_some, Int.toNat_of_nonneg (by omega), Int.neg_neg]

theorem repr_characters (n : Int) : ∀ c ∈ n.repr.toList, c.isDigit = true ∨ c = '-' := by
  rw [Int.repr_eq_if]
  intro c member
  split at member
  · exact .inl (isDigit_repr _ c member)
  · rw [String.toList_append] at member
    rcases List.mem_append.mp member with sign | inside
    · exact .inr (by simpa using sign)
    · exact .inl (isDigit_repr _ c inside)

/-- An integer is read as far as it goes. -/
theorem readConstant_repr (n : Int) (standardConforming : Bool) {rest : List Char}
    (over_ : delimits rest = true) :
    readConstant standardConforming (n.repr.toList ++ rest) = some (.int n, rest) := by
  have carried : ∀ c ∈ n.repr.toList, carriesOn c = true := by
    intro c member
    rcases repr_characters n c member with digit | rfl
    · simp [carriesOn, Char.isAlphanum, digit]
    · decide
  have read := readWord_repr n
  refine readConstant_word standardConforming carried read ?_ over_
  have kinds := repr_characters n
  cases digits : n.repr.toList with
  | nil => simp [digits, readWord, readDigits] at read
  | cons c more =>
      refine EscapeStrings.readString_other fun opens => ?_
      simp only [List.mem_cons, List.not_mem_nil, or_false] at opens
      rcases kinds c (digits ▸ List.mem_cons_self) with digit | rfl
      · rcases opens with rfl | rfl | rfl <;> revert digit <;> decide
      · revert opens
        decide

/-- The printed form of a text constant. -/
theorem characters_escaped (text : String) :
    characters [.escaped text] =
      'E' :: '\'' :: (EscapeStrings.escaped text.toList ++ ['\'']) := by
  have twice : doubled '\'' (doubled '\\' text) =
      String.ofList (EscapeStrings.escaped text.toList) := by
    rw [doubled, doubled, String.toList_ofList, EscapeStrings.escaped, List.flatMap_assoc]
    refine congrArg (fun write => String.ofList (text.toList.flatMap write)) (funext fun c => ?_)
    by_cases backslash : c = '\\'
    · subst backslash
      rfl
    · by_cases quote : c = '\'' <;> simp [backslash, quote]
  simp [characters, Lexeme.print, twice]

/-- A constant token, behind which the text delimits it, denotes the value it was written for. -/
theorem readConstant_constant [PyObject V] {value : V} {text : Text}
    (written : constant value = .ok text) (standardConforming : Bool) {rest : List Char}
    (over_ : delimits rest = true) :
    readConstant standardConforming (characters text ++ rest) =
      some (PyObject.view value, rest) := by
  have word : ∀ (c : Char) (token : List Char) (view : PyView),
      (c :: token).all carriesOn = true → readWord (c :: token) = some view →
        c ∉ ['E', 'e', '\''] →
          readConstant standardConforming (c :: token ++ rest) = some (view, rest) := by
    intro c token view all read first
    exact readConstant_word standardConforming (List.all_eq_true.mp all) read
      (EscapeStrings.readString_other first) over_
  unfold constant at written
  cases view : PyObject.view value with
  | none =>
      simp only [view] at written
      cases written
      exact word 'n' "ull".toList _ rfl rfl (by decide)
  | bool flag =>
      simp only [view] at written
      cases written
      cases flag with
      | true => exact word 't' "rue".toList _ rfl rfl (by decide)
      | false => exact word 'f' "alse".toList _ rfl rfl (by decide)
  | int n =>
      simp only [view] at written
      cases written
      have printed : characters [.number n] = n.repr.toList := List.append_nil _
      rw [printed]
      exact readConstant_repr n standardConforming over_
  | str text =>
      simp only [view] at written
      split at written
      · cases written
      · rename_i proper
        cases written
        have noNul : '\x00' ∉ text.toList := by simpa [String.contains_char_eq] using proper
        have read := EscapeStrings.readString_escaped noNul (ends_of_delimits over_)
          standardConforming
        rw [characters_escaped, List.cons_append, List.cons_append, List.append_assoc,
          List.singleton_append, readConstant, read]
        simp only [String.ofList_toList]
  | interval months days microseconds => simp [view] at written
  | other => simp [view] at written

/-! ### Placeholders replaced by constants -/

section
variable [PyObject V]

/-- A lexeme of the general renderer, with the constant of its value in place of a placeholder. -/
def inlinedLexeme (parameters : List V) : Lexeme → Text
  | .placeholder ordinal =>
      match parameters[ordinal - 1]? with
      | some value => (constant value).toOption.getD []
      | none => []
  | lexeme => [lexeme]

def inlined (parameters : List V) (text : Text) : Text :=
  text.flatMap (inlinedLexeme parameters)

def Lexeme.isPlaceholder : Lexeme → Bool
  | .placeholder _ => true
  | _ => false

/-- The text ends a constant in front of it. -/
def opens : Text → Bool
  | .symbol symbol :: _ => symbol = ")" || symbol = ","
  | .space :: .word word :: _ => word ∈ ["is", "not", "in", "between", "and", "or"]
  | .space :: .symbol symbol :: _ => symbol ∈ ["=", "<>", "<", "<=", ">", ">="]
  | _ => false

/-- Every placeholder stands at the end or where a constant is over. -/
def followed : Text → Bool
  | [] => true
  | .placeholder _ :: rest => (rest.isEmpty || opens rest) && followed rest
  | _ :: rest => followed rest

/-- A text of the general renderer against one of the arbiter renderer, under the parameters bound so
far. -/
structure Agrees (parameters : List V) (general text : Text) : Prop where
  inlined : inlined parameters general = text
  bound : ∀ ordinal, .placeholder ordinal ∈ general →
    ∃ value written, parameters[ordinal - 1]? = some value ∧ constant value = .ok written
  followed : followed general = true

theorem opens_append {first second : Text} (over_ : opens first = true) :
    opens (first ++ second) = true := by
  unfold opens at over_
  split at over_
  · exact over_
  · exact over_
  · exact over_
  · cases over_

theorem followed_append {first second : Text} (left : followed first = true)
    (right : followed second = true) (over_ : opens second = true) :
    followed (first ++ second) = true := by
  induction first with
  | nil => exact right
  | cons lexeme rest ih =>
      cases lexeme with
      | placeholder ordinal =>
          simp only [followed, Bool.and_eq_true, Bool.or_eq_true, List.isEmpty_iff] at left
          simp only [List.cons_append, followed, Bool.and_eq_true, Bool.or_eq_true]
          refine ⟨.inr ?_, ih left.2⟩
          rcases left.1 with rfl | ends
          · exact over_
          · exact opens_append ends
      | _ => exact ih left

theorem followed_plain {lead rest : Text} (plain : ∀ lexeme ∈ lead, lexeme.isPlaceholder = false)
    (later : followed rest = true) : followed (lead ++ rest) = true := by
  induction lead with
  | nil => exact later
  | cons lexeme lead ih =>
      have others := ih fun other member => plain other (List.mem_cons_of_mem _ member)
      cases lexeme with
      | placeholder ordinal => cases plain (.placeholder ordinal) List.mem_cons_self
      | _ => exact others

theorem inlinedLexeme_plain {parameters : List V} {lexeme : Lexeme}
    (plain : lexeme.isPlaceholder = false) : inlinedLexeme parameters lexeme = [lexeme] := by
  cases lexeme with
  | placeholder ordinal => cases plain
  | _ => rfl

theorem inlined_append (parameters : List V) (first second : Text) :
    inlined parameters (first ++ second) = inlined parameters first ++ inlined parameters second :=
  List.flatMap_append

theorem inlined_plain {parameters : List V} {text : Text}
    (plain : ∀ lexeme ∈ text, lexeme.isPlaceholder = false) : inlined parameters text = text := by
  induction text with
  | nil => rfl
  | cons lexeme rest ih =>
      have later := ih fun other member => plain other (List.mem_cons_of_mem _ member)
      rw [inlined, List.flatMap_cons, inlinedLexeme_plain (plain lexeme List.mem_cons_self)]
      rw [inlined] at later
      rw [later, List.singleton_append]

theorem Agrees.append {parameters : List V} {first second firstText secondText : Text}
    (left : Agrees parameters first firstText) (right : Agrees parameters second secondText)
    (over_ : opens second = true) :
    Agrees parameters (first ++ second) (firstText ++ secondText) := by
  refine ⟨?_, fun ordinal member => ?_, followed_append left.followed right.followed over_⟩
  · rw [inlined_append, left.inlined, right.inlined]
  · exact (List.mem_append.mp member).elim (left.bound ordinal) (right.bound ordinal)

/-- Lexemes that both renderers write. -/
theorem Agrees.lead {parameters : List V} {rest text : Text} (lead : Text)
    (plain : ∀ lexeme ∈ lead, lexeme.isPlaceholder = false) (later : Agrees parameters rest text) :
    Agrees parameters (lead ++ rest) (lead ++ text) := by
  refine ⟨?_, fun ordinal member => ?_, followed_plain plain later.followed⟩
  · rw [inlined_append, inlined_plain plain, later.inlined]
  · rcases List.mem_append.mp member with inside | inside
    · cases plain _ inside
    · exact later.bound ordinal inside

theorem Agrees.plain {parameters : List V} {text : Text}
    (plain : ∀ lexeme ∈ text, lexeme.isPlaceholder = false) : Agrees parameters text text := by
  have none_ : Agrees parameters [] [] := ⟨rfl, fun _ member => (List.not_mem_nil member).elim, rfl⟩
  have whole := none_.lead text plain
  rwa [List.append_nil] at whole

/-- Values bound later do not touch a text. -/
theorem Agrees.extend {parameters : List V} {general text : Text}
    (agrees : Agrees parameters general text) (more : List V) :
    Agrees (parameters ++ more) general text := by
  have still : ∀ ordinal, .placeholder ordinal ∈ general →
      (parameters ++ more)[ordinal - 1]? = parameters[ordinal - 1]? := by
    intro ordinal member
    obtain ⟨value, -, known, -⟩ := agrees.bound ordinal member
    exact List.getElem?_append_left (List.getElem?_eq_some_iff.mp known).1
  refine ⟨?_, fun ordinal member => ?_, agrees.followed⟩
  · rw [← agrees.inlined, Relq.inlined, Relq.inlined, List.flatMap_def, List.flatMap_def]
    refine congrArg List.flatten (List.map_congr_left fun lexeme member => ?_)
    cases lexeme with
    | placeholder ordinal => simp only [inlinedLexeme, still ordinal member]
    | _ => rfl
  · rw [still ordinal member]
    exact agrees.bound ordinal member

theorem Agrees.parens {parameters : List V} {general text : Text}
    (agrees : Agrees parameters general text) :
    Agrees parameters (parens general) (parens text) := by
  refine Agrees.lead [.symbol "("] (by decide) ?_
  exact agrees.append (.plain (by decide)) rfl

/-- Two operands around an operator. -/
theorem Agrees.operation {parameters : List V} {left right leftText rightText operator : Text}
    (first : Agrees parameters left leftText) (second : Agrees parameters right rightText)
    (plain : ∀ lexeme ∈ operator, lexeme.isPlaceholder = false)
    (over_ : opens (.space :: operator) = true) :
    Agrees parameters (operation left operator right) (operation leftText operator rightText) := by
  have lead : ∀ lexeme ∈ Lexeme.space :: operator ++ [Lexeme.space],
      lexeme.isPlaceholder = false := by
    intro lexeme member
    rcases List.mem_append.mp member with inside | inside
    · rcases List.mem_cons.mp inside with rfl | inside
      · rfl
      · exact plain lexeme inside
    · obtain rfl := List.mem_singleton.mp inside
      rfl
  have later := Agrees.lead (.space :: operator ++ [Lexeme.space]) lead second
  have whole := first.append later (by simpa using opens_append over_)
  simpa [Relq.operation] using whole.parens

/-! ### The two renderers -/

/-- The general renderer's text for one node, against the arbiter renderer's. -/
def Renders (node : Node V) (text : Text) : Prop :=
  ∀ parameters : List V, ∃ general values,
    compileNode postgres node parameters = .ok (general, parameters ++ values) ∧
      Agrees (parameters ++ values) general text

theorem renders_value {value : V} {text : Text} (written : constant value = .ok text) :
    Renders (.value value) text := by
  intro parameters
  refine ⟨[.placeholder (parameters.length + 1)], [value], ?_, ?_, ?_, rfl⟩
  · have bound : (bindValue value : Renderer V Text) parameters =
        .ok ([.placeholder (parameters ++ [value]).length], parameters ++ [value]) := rfl
    rw [compileNode, bound, List.length_append, List.length_singleton]
  · have known : (parameters ++ [value])[parameters.length]? = some value := by simp
    simp only [inlined, List.flatMap_cons, List.flatMap_nil, List.append_nil, inlinedLexeme,
      Nat.add_sub_cancel, known, written]
    rfl
  · intro ordinal member
    obtain rfl : ordinal = parameters.length + 1 := by simpa using member
    exact ⟨value, text, by simp, written⟩

/-- Two nodes, one rendered after the other. -/
theorem Renders.pair {first second : Node V} {firstText secondText : Text}
    (left : Renders first firstText) (right : Renders second secondText) (parameters : List V) :
    ∃ general other between values,
      compileNode postgres first parameters = .ok (general, parameters ++ between) ∧
      compileNode postgres second (parameters ++ between) =
        .ok (other, parameters ++ (between ++ values)) ∧
      Agrees (parameters ++ (between ++ values)) general firstText ∧
      Agrees (parameters ++ (between ++ values)) other secondText := by
  obtain ⟨general, between, rendered, agrees⟩ := left parameters
  obtain ⟨other, values, later, agreesLater⟩ := right (parameters ++ between)
  refine ⟨general, other, between, values, rendered, ?_, ?_, ?_⟩
  · rw [later, List.append_assoc]
  · rw [← List.append_assoc]
    exact agrees.extend values
  · rw [← List.append_assoc]
    exact agreesLater

theorem indexPredicateBinary_lexeme {operator : BinaryOperator}
    (allowed : indexPredicateBinary operator = true) :
    opens [.space, operator.lexeme] = true ∧ operator.lexeme.isPlaceholder = false := by
  cases operator <;> first | exact ⟨rfl, rfl⟩ | (revert allowed; decide)

theorem indexPredicateUnary_words {operator : UnaryOperator}
    (allowed : indexPredicateUnary operator = true) :
    opens (.space :: words operator.words) = true ∧
      ∀ lexeme ∈ words operator.words, lexeme.isPlaceholder = false := by
  cases operator <;> exact ⟨rfl, by decide⟩

mutual

/-- The two renderers agree on every predicate of the closed set. -/
theorem renders_node : (node : Node V) → ∀ text, compileIndexPredicate node = .ok text →
    Renders node text
  | .column source name => by
      intro text accepted parameters
      simp only [compileIndexPredicate, Except.ok.injEq] at accepted
      subst accepted
      exact ⟨_, [], by simp [compileNode], .plain (by simp [Lexeme.isPlaceholder])⟩
  | .value value => by
      intro text accepted
      rw [compileIndexPredicate] at accepted
      exact renders_value accepted
  | .binary left operator right => by
      intro text accepted parameters
      rw [compileIndexPredicate] at accepted
      split at accepted
      · rename_i allowed
        simp only [bind_eq_ok, pure_eq_ok] at accepted
        obtain ⟨leftText, first, rightText, second, rfl⟩ := accepted
        obtain ⟨general, other, between, values, rendered, later, agrees, agreesLater⟩ :=
          (renders_node left _ first).pair (renders_node right _ second) parameters
        obtain ⟨over_, plain⟩ := indexPredicateBinary_lexeme allowed
        refine ⟨operation general [operator.lexeme] other, between ++ values, ?_, ?_⟩
        · simp only [compileNode, state_bind_eq_ok, state_pure_eq_ok]
          exact ⟨_, _, rendered, _, _, later, rfl⟩
        · exact agrees.operation agreesLater (by simpa using plain) over_
      · cases accepted
  | .unary operator operand => by
      intro text accepted parameters
      rw [compileIndexPredicate] at accepted
      split at accepted
      · rename_i allowed
        simp only [bind_eq_ok, pure_eq_ok] at accepted
        obtain ⟨operandText, first, rfl⟩ := accepted
        obtain ⟨general, values, rendered, agrees⟩ := renders_node operand _ first parameters
        obtain ⟨over_, plain⟩ := indexPredicateUnary_words allowed
        refine ⟨parens (general ++ [Lexeme.space] ++ words operator.words), values, ?_, ?_⟩
        · simp only [compileNode, state_bind_eq_ok, state_pure_eq_ok]
          exact ⟨_, _, rendered, rfl⟩
        · have lead : ∀ lexeme ∈ Lexeme.space :: words operator.words,
              lexeme.isPlaceholder = false := List.forall_mem_cons.mpr ⟨rfl, plain⟩
          have whole := agrees.append (.plain lead) over_
          simpa using whole.parens
      · cases accepted
  | .inNode expression (.nodes values) negated => by
      intro text accepted parameters
      simp only [compileIndexPredicate, bind_eq_ok, pure_eq_ok] at accepted
      obtain ⟨items, listed, expressionText, first, rfl⟩ := accepted
      obtain ⟨general, between, rendered, agrees⟩ := renders_node expression _ first parameters
      obtain ⟨generals, bound, later, -, agreesLater⟩ :=
        renders_nodes values _ listed (parameters ++ between)
      rw [List.append_assoc] at later agreesLater
      refine ⟨operation general (words (if negated then ["not", "in"] else ["in"]))
        (parens (commas generals)), between ++ bound, ?_, ?_⟩
      · simp only [compileNode, compileInValues, state_bind_eq_ok, state_pure_eq_ok]
        exact ⟨_, _, rendered, _, _, ⟨_, _, later, rfl⟩, rfl⟩
      · have before := agrees.extend bound
        rw [List.append_assoc] at before
        exact before.operation agreesLater.parens (by cases negated <;> decide)
          (by cases negated <;> decide)
  | .between expression lower upper negated => by
      intro text accepted parameters
      simp only [compileIndexPredicate, bind_eq_ok, pure_eq_ok] at accepted
      obtain ⟨expressionText, first, lowerText, second, upperText, third, rfl⟩ := accepted
      obtain ⟨general, between, rendered, agrees⟩ := renders_node expression _ first parameters
      obtain ⟨low, high, middle, bound, lowRendered, highRendered, lowAgrees, highAgrees⟩ :=
        (renders_node lower _ second).pair (renders_node upper _ third) (parameters ++ between)
      rw [List.append_assoc parameters between (middle ++ bound)] at highRendered lowAgrees highAgrees
      refine ⟨operation general (words (if negated then ["not", "between"] else ["between"]))
        (low ++ spaced ["and"] ++ high), between ++ (middle ++ bound), ?_, ?_⟩
      · simp only [compileNode, state_bind_eq_ok, state_pure_eq_ok]
        exact ⟨_, _, rendered, _, _, lowRendered, _, _, highRendered, rfl⟩
      · have before := agrees.extend (middle ++ bound)
        rw [List.append_assoc] at before
        have bounds := lowAgrees.append (highAgrees.lead (spaced ["and"]) (by decide)) rfl
        rw [← List.append_assoc low, ← List.append_assoc lowerText] at bounds
        exact before.operation bounds (by cases negated <;> decide) (by cases negated <;> decide)
  | .temporalClock _ | .temporalMakeDate _ _ _ | .temporalMakeTime _ _ _
  | .temporalMakeTimestamp _ _ _ _ _ _ | .temporalMakeTimestamptz _ _ _ _ _ _ _
  | .temporalMakeInterval _ | .temporalEpoch _ | .temporalArithmetic _ _ _
  | .temporalDifference _ _ | .temporalIntervalUnary _ | .temporalIntervalScale _ _ _
  | .temporalTimezone _ _ | .temporalExtract _ _ | .temporalTrunc _ _
  | .temporalTruncTimestamptz _ _ _ | .temporalBin _ _ _ | .temporalAge _ _
  | .temporalOverlaps _ _ _ _ | .temporalJustify _ _ | .function _ _ | .case _ _
  | .aggregate _ _ _ | .window _ _ _ _ _ | .aliased _ _ | .nullableResult _ | .star
  | .inNode _ (.select _) _ | .scalarSubquery _ | .exists _ _ | .excluded _ _ | .jsonText _ _
  | .regexMatch _ _ _ | .uuidCast _ => by
      intro text accepted
      simp [compileIndexPredicate] at accepted

theorem renders_nodes : (nodes : List (Node V)) → ∀ texts, compileIndexPredicates nodes = .ok texts →
    ∀ parameters : List V, ∃ generals values,
      compileNodes postgres nodes parameters = .ok (generals, parameters ++ values) ∧
        (generals = [] ↔ texts = []) ∧
        Agrees (parameters ++ values) (commas generals) (commas texts)
  | [] => by
      intro texts accepted parameters
      simp only [compileIndexPredicates, Except.ok.injEq] at accepted
      subst accepted
      exact ⟨[], [], by simp [compileNodes], Iff.rfl, .plain (by simp [commas])⟩
  | node :: rest => by
      intro texts accepted parameters
      simp only [compileIndexPredicates, bind_eq_ok, pure_eq_ok] at accepted
      obtain ⟨text, first, texts, others, rfl⟩ := accepted
      obtain ⟨general, between, rendered, agrees⟩ := renders_node node _ first parameters
      obtain ⟨generals, values, later, empty, agreesLater⟩ :=
        renders_nodes rest _ others (parameters ++ between)
      rw [List.append_assoc] at later agreesLater
      have before := agrees.extend values
      rw [List.append_assoc] at before
      refine ⟨general :: generals, between ++ values, ?_, by simp, ?_⟩
      · simp only [compileNodes, state_bind_eq_ok, state_pure_eq_ok]
        exact ⟨_, _, rendered, _, _, later, rfl⟩
      · by_cases alone : texts = []
        · rw [alone, empty.mpr alone]
          exact before
        · have listed : generals ≠ [] := fun none => alone (empty.mp none)
          obtain ⟨nextText, moreTexts, rfl⟩ := List.exists_cons_of_ne_nil alone
          obtain ⟨next, more, rfl⟩ := List.exists_cons_of_ne_nil listed
          have whole := before.append (agreesLater.lead [.symbol ",", .space] (by decide)) rfl
          simpa [commas] using whole

end

/-! ### What PostgreSQL reads -/

/-- PostgreSQL reads the constant in place of each placeholder of a text as the value bound there, up
to the constant's last character, whatever the setting and whatever text delimits the whole. -/
def ConstantsRead (parameters : List V) (general : Text) : Prop :=
  ∀ before ordinal after, general = before ++ .placeholder ordinal :: after →
    ∃ value written, parameters[ordinal - 1]? = some value ∧ constant value = .ok written ∧
      ∀ standardConforming tail, delimits tail = true →
        readConstant standardConforming
            (characters (written ++ inlined parameters after) ++ tail) =
          some (PyObject.view value, characters (inlined parameters after) ++ tail)

/-- A conflict clause binds the same values without its target predicate. -/
def BindsNothing (node : Node V) (parameters : List V) : Prop :=
  ∀ (conflict : ConflictNode V) text rest, conflict.targetWhere = some node →
    compileConflict postgres conflict parameters = .ok (text, rest) →
      ∃ bare, compileConflict postgres { conflict with targetWhere := none } parameters =
        .ok (bare, rest)

theorem inlined_opens {parameters : List V} {text : Text} (over_ : opens text = true)
    {tail : List Char} : delimits (characters (inlined parameters text) ++ tail) = true := by
  unfold opens at over_
  split at over_
  · rename_i symbol rest
    simp only [Bool.or_eq_true, decide_eq_true_eq] at over_
    rcases over_ with rfl | rfl <;> rfl
  · rename_i word rest
    simp only [List.mem_cons, List.not_mem_nil, or_false, decide_eq_true_eq] at over_
    rcases over_ with rfl | rfl | rfl | rfl | rfl | rfl <;> rfl
  · rename_i symbol rest
    simp only [List.mem_cons, List.not_mem_nil, or_false, decide_eq_true_eq] at over_
    rcases over_ with rfl | rfl | rfl | rfl | rfl | rfl <;> rfl
  · cases over_

theorem followed_split {before after : Text} {ordinal : Nat}
    (ends : followed (before ++ .placeholder ordinal :: after) = true) :
    after = [] ∨ opens after = true := by
  induction before with
  | nil =>
      simp only [List.nil_append, followed, Bool.and_eq_true, Bool.or_eq_true, List.isEmpty_iff]
        at ends
      exact ends.1
  | cons lexeme before ih =>
      refine ih ?_
      cases lexeme with
      | placeholder other =>
          simp only [List.cons_append, followed, Bool.and_eq_true] at ends
          exact ends.2
      | _ => exact ends

theorem Agrees.read {parameters : List V} {general text : Text}
    (agrees : Agrees parameters general text) : ConstantsRead parameters general := by
  rintro before ordinal after rfl
  obtain ⟨value, written, known, wrote⟩ := agrees.bound ordinal (by simp)
  refine ⟨value, written, known, wrote, fun standardConforming tail over_ => ?_⟩
  have joined : characters (written ++ Relq.inlined parameters after) ++ tail =
      characters written ++ (characters (Relq.inlined parameters after) ++ tail) := by
    rw [characters, List.flatMap_append, List.append_assoc]
    rfl
  rw [joined]
  refine readConstant_constant wrote standardConforming ?_
  rcases followed_split agrees.followed with rfl | opened
  · exact over_
  · exact inlined_opens opened

theorem bindsNothing (node : Node V) (parameters : List V) : BindsNothing node parameters := by
  rintro ⟨columns, action, updateValues, targetWhere, updateWhere⟩ text rest rfl rendered
  simp only [compileConflict, state_bind_eq_ok, state_lift_eq_ok] at rendered ⊢
  obtain ⟨target, _, ⟨-, rfl⟩, rendered⟩ := rendered
  have none_ : ∃ bare, conflictTarget columns (none : Option (Node V)) = .ok bare := ⟨_, rfl⟩
  obtain ⟨bareTarget, bareDone⟩ := none_
  by_cases nothing : action = "nothing"
  · simp only [nothing, if_true] at rendered ⊢
    cases updateWhere with
    | none =>
        simp only [Option.isSome_none, Bool.false_eq_true, if_false, state_pure_eq_ok,
          Prod.mk.injEq] at rendered ⊢
        exact ⟨_, _, _, ⟨bareDone, rfl⟩, rfl, rendered.2⟩
    | some predicate =>
        simp only [Option.isSome_some, if_true, state_bind_eq_ok, state_throw_eq_ok, false_and,
          exists_false] at rendered
  · simp only [nothing, if_false] at rendered ⊢
    by_cases update : action = "update"
    · simp only [update, if_true] at rendered ⊢
      cases updateValues with
      | nil =>
          simp only [List.isEmpty_nil, if_true, state_bind_eq_ok, state_throw_eq_ok, false_and,
            exists_false] at rendered
      | cons first others =>
          simp only [List.isEmpty_cons, Bool.false_eq_true, if_false, state_bind_eq_ok,
            state_pure_eq_ok, Prod.mk.injEq] at rendered ⊢
          obtain ⟨_, _, assigned, _, _, filtered, -, rfl⟩ := rendered
          exact ⟨_, _, _, ⟨bareDone, rfl⟩, _, _, assigned, _, _, filtered, rfl, rfl⟩
    · simp only [update, if_false, state_throw_eq_ok] at rendered

end

/-- Bound values that are nothing but what the compiler sees of them. -/
instance : PyObject PyView where
  canonical value := value
  hashable _ := true
  view value := value

end Relq
