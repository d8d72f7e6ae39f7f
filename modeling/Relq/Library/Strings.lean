/-
Module: Relq.Library.Strings
Layer: Library
Purpose: The operations of Python's `str` that depend on Unicode tables, and the searches that do
  not. On ASCII text the tables are what Lean's own functions compute; beyond ASCII they are left
  open.
Imports: Mathlib.Data.List.Infix (parts of a text), Relq.Library.Characters
Trusted boundary: human-reviewed spec
Main exports: keywords, softKeywords, Strings, Strings.ofAscii, contains, startsWith, partition
-/
import Mathlib.Data.List.Infix
import Relq.Library.Characters

namespace Python

/-- `keyword.kwlist`. -/
def keywords : List String :=
  ["False", "None", "True", "and", "as", "assert", "async", "await", "break", "class", "continue",
    "def", "del", "elif", "else", "except", "finally", "for", "from", "global", "if", "import", "in",
    "is", "lambda", "nonlocal", "not", "or", "pass", "raise", "return", "try", "while", "with",
    "yield"]

/-- `keyword.softkwlist`. -/
def softKeywords : List String :=
  ["_", "case", "match", "type"]

def asciiLower (text : String) : String :=
  String.ofList (text.toList.map Char.toLower)

def asciiWord (c : Char) : Bool :=
  c.isAlphanum || c == '_'

/-- An identifier of ASCII characters. -/
def asciiIdentifier : List Char → Bool
  | [] => false
  | first :: rest => (first.isAlpha || first == '_') && rest.all asciiWord

/-- `str.lower`, `str.isidentifier` and `repr` of a text, and the `\w` and `str.isdigit` of one
character. -/
structure Strings where
  lower : String → String
  isIdentifier : String → Bool
  repr : String → String
  isWord : Char → Bool
  isDigit : Char → Bool
  lower_ascii : ∀ text, text.toList.all isAscii = true → lower text = asciiLower text
  isIdentifier_ascii : ∀ text, text.toList.all isAscii = true →
    isIdentifier text = asciiIdentifier text.toList
  isWord_ascii : ∀ c, isAscii c = true → isWord c = asciiWord c
  isDigit_ascii : ∀ c, isAscii c = true → isDigit c = c.isDigit

/-- `needle in text`. -/
def contains (text needle : String) : Bool :=
  needle.toList <:+: text.toList

/-- `text.startswith(start)`. -/
def startsWith (text start : String) : Bool :=
  start.toList <+: text.toList

/-- `text.partition(separator)` for one character: the text before its first occurrence and, if
there is one, the text after. -/
def partition (text : String) (separator : Char) : String × Option String :=
  let characters := text.toList
  let head := characters.takeWhile (· != separator)
  match characters.drop head.length with
  | [] => (String.ofList head, none)
  | _ :: tail => (String.ofList head, some (String.ofList tail))

/-- Tables that know ASCII only, with the `repr` of texts that need no escape. -/
def Strings.ofAscii : Strings where
  lower := asciiLower
  isIdentifier text := text.toList.all isAscii && asciiIdentifier text.toList
  repr text := "'" ++ text ++ "'"
  isWord c := isAscii c && asciiWord c
  isDigit c := isAscii c && c.isDigit
  lower_ascii _ _ := rfl
  isIdentifier_ascii text ascii := by simp [ascii]
  isWord_ascii c ascii := by simp [ascii]
  isDigit_ascii c ascii := by simp [ascii]

end Python
