/-
Module: Relq.Library.Characters
Layer: Library
Purpose: The character predicates of Python's `str`. On ASCII they are what Lean's own are; beyond
  ASCII they follow tables of Unicode that are left open here.
Imports: none (Mathlib-free)
Trusted boundary: human-reviewed spec
Main exports: isSpace, Characters, isAscii, asciiUpper, Characters.upperText, Characters.ofAscii
-/

namespace Python

def isAscii (c : Char) : Bool :=
  c.toNat < 128

/-- `str.isspace` of one character. -/
def isSpace (c : Char) : Bool :=
  let code := c.toNat
  (9 ≤ code && code ≤ 13) || (28 ≤ code && code ≤ 32) || code = 0x85 || code = 0xA0 ||
    code = 0x1680 || (0x2000 ≤ code && code ≤ 0x200A) || code = 0x2028 || code = 0x2029 ||
    code = 0x202F || code = 0x205F || code = 0x3000

/-- `str.isalpha`, `str.isalnum` and `str.upper` of one character. -/
structure Characters where
  isAlpha : Char → Bool
  isAlnum : Char → Bool
  upper : Char → List Char
  isAlpha_ascii : ∀ c, isAscii c = true → isAlpha c = c.isAlpha
  isAlnum_ascii : ∀ c, isAscii c = true → isAlnum c = c.isAlphanum
  isAlnum_of_isAlpha : ∀ c, isAlpha c = true → isAlnum c = true
  isSpace_of_isAlpha : ∀ c, isAlpha c = true → isSpace c = false
  upper_ascii : ∀ c, isAscii c = true → upper c = [c.toUpper]

namespace Characters

/-- `str.upper` of a text. -/
def upperText (py : Characters) (text : List Char) : String :=
  String.ofList (text.flatMap py.upper)

theorem isSpace_of_letter {c : Char} (letter : c.isAlpha = true) : isSpace c = false := by
  delta Char.isAlpha Char.isUpper Char.isLower at letter
  simp only [Bool.or_eq_true, Bool.and_eq_true, decide_eq_true_eq, UInt32.le_iff_toNat_le] at letter
  have code : (65 ≤ c.toNat ∧ c.toNat ≤ 90) ∨ (97 ≤ c.toNat ∧ c.toNat ≤ 122) := letter
  simp only [isSpace]
  simp only [Bool.or_eq_false_iff, Bool.and_eq_false_iff, decide_eq_false_iff_not]
  omega

/-- Tables that know no letter beyond ASCII. -/
def ofAscii : Characters where
  isAlpha c := isAscii c && c.isAlpha
  isAlnum c := isAscii c && c.isAlphanum
  upper c := [c.toUpper]
  isAlpha_ascii c ascii := by simp [ascii]
  isAlnum_ascii c ascii := by simp [ascii]
  isAlnum_of_isAlpha c alpha := by
    simp only [Bool.and_eq_true] at alpha ⊢
    exact ⟨alpha.1, by simp [Char.isAlphanum, alpha.2]⟩
  isSpace_of_isAlpha c alpha := by
    rw [Bool.and_eq_true] at alpha
    exact isSpace_of_letter alpha.2
  upper_ascii _ _ := rfl

end Characters

/-- The folding of letters that only knows ASCII. -/
def asciiUpper (text : List Char) : String :=
  String.ofList (text.map Char.toUpper)

end Python
