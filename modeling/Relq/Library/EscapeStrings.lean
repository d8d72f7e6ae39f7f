/-
Module: Relq.Library.EscapeStrings
Layer: Library
Purpose: String constants as PostgreSQL's lexer reads them. A constant `E'…'` reads backslashes as
  escapes under every setting; a plain one does so unless `standard_conforming_strings` is on. A
  quote may be doubled, and a constant goes on behind white space with a newline in it. `escaped`
  writes any text without NUL so that the lexer gives it back.
Imports: none (Mathlib-free)
Trusted boundary: human-reviewed spec (reopened, scanEscape, scanPlain, readString)
Main exports: reopened, scanEscape, scanPlain, readString, escaped, readString_escaped
-/

namespace EscapeStrings

/-- Behind a closing quote, the constant goes on if a newline and another quote follow, with nothing
but white space and line comments in front of that quote. `newline` tells that a newline was read,
`comment` that a comment is being read. -/
def reopened : (newline comment : Bool) → List Char → Option (List Char)
  | _, _, [] => none
  | newline, true, c :: rest =>
      if c = '\n' ∨ c = '\r' then reopened true false rest else reopened newline true rest
  | newline, false, '-' :: '-' :: rest => reopened newline true rest
  | newline, false, c :: rest =>
      if c = '\n' ∨ c = '\r' then reopened true false rest
      else if c = ' ' ∨ c = '\t' ∨ c = '\x0b' ∨ c = '\x0c' then reopened newline false rest
      else if c = '\'' then if newline then some rest else none
      else none

theorem reopened_length {newline comment : Bool} {text rest : List Char}
    (found : reopened newline comment text = some rest) : rest.length < text.length := by
  fun_induction reopened newline comment text with
  | case1 => cases found
  | case2 _ _ _ _ ih | case3 _ _ _ _ ih => exact Nat.lt_succ_of_lt (ih found)
  | case4 _ _ ih => exact Nat.lt_succ_of_lt (Nat.lt_succ_of_lt (ih found))
  | case5 _ _ _ _ _ ih | case6 _ _ _ _ _ _ ih => exact Nat.lt_succ_of_lt (ih found)
  | case7 =>
      cases found
      exact Nat.lt_succ_self _
  | case8 | case9 => cases found

/-- Any other character leaves the constant closed. -/
theorem reopened_other {newline : Bool} {c : Char} {rest : List Char}
    (plain : c ∉ ['\n', '\r', ' ', '\t', '\x0b', '\x0c', '\'', '-']) :
    reopened newline false (c :: rest) = none := by
  simp only [List.mem_cons, List.not_mem_nil, or_false, not_or] at plain
  obtain ⟨newline', return_, space, tab, vertical, form, quote, hyphen⟩ := plain
  rw [reopened.eq_def]
  split
  · contradiction
  · contradiction
  · rename_i same
    exact absurd (List.cons.inj same).1 hyphen
  · rename_i same
    obtain ⟨rfl, rfl⟩ := List.cons.inj same
    simp [newline', return_, space, tab, vertical, form, quote]

theorem reopened_space {newline : Bool} {rest : List Char} :
    reopened newline false (' ' :: rest) = reopened newline false rest := by
  rw [reopened.eq_def]
  rfl

/-- The character a backslash makes of the one behind it. Which character a numeric escape stands for
depends on the encoding of the server; it is not read here. -/
def unescape : Char → Option Char
  | 'b' => some '\x08'
  | 'f' => some '\x0c'
  | 'n' => some '\n'
  | 'r' => some '\r'
  | 't' => some '\t'
  | 'v' => some '\x0b'
  | 'x' | 'u' | 'U' | '\x00' => none
  | c => if '0' ≤ c ∧ c ≤ '7' then none else some c

/-- A constant with escapes, from behind its opening quote: its text, and what follows it. NUL ends
what the server is sent. -/
def scanEscape : List Char → Option (List Char × List Char)
  | [] => none
  | '\'' :: '\'' :: rest => (scanEscape rest).map fun (text, rest) => ('\'' :: text, rest)
  | '\'' :: rest =>
      match _found : reopened false false rest with
      | some more => scanEscape more
      | none => some ([], rest)
  | '\\' :: c :: rest => do
      let character ← unescape c
      let (text, rest) ← scanEscape rest
      return (character :: text, rest)
  | c :: rest =>
      if c = '\\' ∨ c = '\x00' then none
      else (scanEscape rest).map fun (text, rest) => (c :: text, rest)
termination_by text => text.length
decreasing_by
  all_goals simp only [List.length_cons]
  all_goals first | omega | (have shorter := reopened_length ‹_›; omega)

/-- A constant without escapes, likewise. -/
def scanPlain : List Char → Option (List Char × List Char)
  | [] => none
  | '\'' :: '\'' :: rest => (scanPlain rest).map fun (text, rest) => ('\'' :: text, rest)
  | '\'' :: rest =>
      match _found : reopened false false rest with
      | some more => scanPlain more
      | none => some ([], rest)
  | c :: rest =>
      if c = '\x00' then none else (scanPlain rest).map fun (text, rest) => (c :: text, rest)
termination_by text => text.length
decreasing_by
  all_goals simp only [List.length_cons]
  all_goals first | omega | (have shorter := reopened_length ‹_›; omega)

/-- A string constant at the front of a text: what it denotes, and what follows it.
`standardConforming` is the session's `standard_conforming_strings`. -/
def readString (standardConforming : Bool) : List Char → Option (List Char × List Char)
  | 'E' :: '\'' :: rest | 'e' :: '\'' :: rest => scanEscape rest
  | '\'' :: rest => if standardConforming then scanPlain rest else scanEscape rest
  | _ => none

theorem readString_other {standardConforming : Bool} {c : Char} {rest : List Char}
    (plain : c ∉ ['E', 'e', '\'']) : readString standardConforming (c :: rest) = none := by
  simp only [List.mem_cons, List.not_mem_nil, or_false, not_or] at plain
  obtain ⟨upper, lower, quote⟩ := plain
  rw [readString.eq_def]
  split
  · rename_i same
    exact absurd (List.cons.inj same).1 upper
  · rename_i same
    exact absurd (List.cons.inj same).1 lower
  · rename_i same
    exact absurd (List.cons.inj same).1 quote
  · rfl

/-- Backslashes and quotes doubled. -/
def escaped (text : List Char) : List Char :=
  text.flatMap fun c => if c = '\\' ∨ c = '\'' then [c, c] else [c]

/-- What follows a closing quote neither doubles it nor carries the constant on. -/
def Ends (rest : List Char) : Prop :=
  rest.head? ≠ some '\'' ∧ reopened false false rest = none

theorem scanEscape_close {rest : List Char} (ends : Ends rest) :
    scanEscape ('\'' :: rest) = some ([], rest) := by
  obtain ⟨single, stops⟩ := ends
  rw [scanEscape.eq_def]
  split
  · contradiction
  · rename_i same
    obtain ⟨-, rfl⟩ := List.cons.inj same
    exact absurd rfl single
  · rename_i same
    obtain ⟨-, rfl⟩ := List.cons.inj same
    split
    · rename_i found
      rw [stops] at found
      cases found
    · rfl
  · rename_i same
    cases same
  · rename_i c rest' _ notQuote _ same
    obtain ⟨rfl, rfl⟩ := List.cons.inj same
    exact (notQuote rfl).elim

/-- One character of the text, escaped, is read as itself. -/
theorem scanEscape_character {c : Char} {rest : List Char} (proper : c ≠ '\x00') :
    scanEscape ((if c = '\\' ∨ c = '\'' then [c, c] else [c]) ++ rest) =
      (scanEscape rest).map fun (text, rest) => (c :: text, rest) := by
  by_cases quote : c = '\''
  · subst quote
    simp [scanEscape]
  · by_cases backslash : c = '\\'
    · subst backslash
      simp only [true_or, if_true, List.cons_append, List.nil_append]
      rw [scanEscape]
      cases scanEscape rest <;> rfl
    · simp only [quote, backslash, or_self, if_false, List.cons_append, List.nil_append]
      rw [scanEscape.eq_def]
      split
      · contradiction
      · rename_i same
        exact absurd (List.cons.inj same).1 quote
      · rename_i same
        exact absurd (List.cons.inj same).1 quote
      · rename_i same
        exact absurd (List.cons.inj same).1 backslash
      · rename_i same
        obtain ⟨rfl, rfl⟩ := List.cons.inj same
        rw [if_neg (by simp [backslash, proper])]

theorem scanEscape_escaped {text rest : List Char} (proper : '\x00' ∉ text) (ends : Ends rest) :
    scanEscape (escaped text ++ '\'' :: rest) = some (text, rest) := by
  induction text with
  | nil => exact scanEscape_close ends
  | cons c text ih =>
      have first : c ≠ '\x00' := fun same => proper (same ▸ List.mem_cons_self)
      have later : '\x00' ∉ text := fun member => proper (List.mem_cons_of_mem _ member)
      rw [escaped, List.flatMap_cons, List.append_assoc, scanEscape_character first]
      rw [escaped] at ih
      rw [ih later]
      rfl

/-- A text without NUL, escaped and quoted behind an `E`, is read back under either setting, up to its
last character. -/
theorem readString_escaped {text rest : List Char} (proper : '\x00' ∉ text) (ends : Ends rest)
    (standardConforming : Bool) :
    readString standardConforming ('E' :: '\'' :: (escaped text ++ '\'' :: rest)) =
      some (text, rest) :=
  scanEscape_escaped proper ends

end EscapeStrings
