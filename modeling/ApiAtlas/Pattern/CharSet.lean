import ApiAtlas.Text.Basic
import ApiAtlas.Text.Category
import ApiAtlas.Text.Folding
import ApiAtlas.Text.Script
import ApiAtlas.Text.Trait

/-! # Sets of characters

The sets that a pattern names: ranges, the characters with a property, and what the operations on sets
make of them.
-/

namespace ApiAtlas

inductive CharProperty where
  /-- The general category is one of these. -/
  | category (categories : List Letter.Category)
  /-- The script has this code. -/
  | script (code : String)
  /-- The character is used in the script with this code. -/
  | usedIn (code : String)
  /-- The trait has this name. -/
  | trait (name : String)
  | alphabetic
  | lower
  | upper
  /-- There is another small form. -/
  | hasSmallForm
  /-- There is another capital form. -/
  | hasCapitalForm
  | blank
  | word
deriving Repr, Inhabited

def CharProperty.holds : CharProperty → Char → Bool
  | .category categories, c => categories.contains (Letter.category c)
  | .script code, c => Letter.script c == code
  | .usedIn code, c => (Letter.scriptsOfUse c).contains code
  | .trait name, c => (Letter.Trait.named? name).any (·.holds c)
  | .alphabetic, c => Letter.isAlphabetic c
  | .lower, c => Letter.isAssigned c && (Letter.isLower c || Letter.category c == .lowercaseLetter)
  | .upper, c => Letter.isAssigned c && Letter.isUpper c
  | .hasSmallForm, c => Letter.hasSmallForm c
  | .hasCapitalForm, c => Letter.hasCapitalForm c
  | .blank, c => Letter.isBlank c
  | .word, c => Letter.isWordChar c

inductive CharSet where
  | empty
  | range (first last : Char)
  | having (property : CharProperty)
  | union (a b : CharSet)
  | intersection (a b : CharSet)
  /-- The characters of the first set that are not in the second. -/
  | difference (a b : CharSet)
  /-- The characters in just one of the sets. -/
  | distinction (a b : CharSet)
  | complement (set : CharSet)
  /-- The characters that differ at most in case from one of the set. -/
  | anyCase (set : CharSet)
deriving Repr, Inhabited

namespace CharSet

def contains : CharSet → Char → Bool
  | .empty, _ => false
  | .range first last, c => first ≤ c && c ≤ last
  | .having property, c => property.holds c
  | .union a b, c => a.contains c || b.contains c
  | .intersection a b, c => a.contains c && b.contains c
  | .difference a b, c => a.contains c && !b.contains c
  | .distinction a b, c => a.contains c != b.contains c
  | .complement set, c => !set.contains c
  | .anyCase set, c => (Letter.caseVariants c).any set.contains

def single (c : Char) : CharSet := .range c c

def unionOf (sets : List CharSet) : CharSet := sets.foldl .union .empty

/-- The set, or all that differ from it in case only. -/
def withCase (ignoresCase : Bool) (set : CharSet) : CharSet :=
  if ignoresCase then .anyCase set else set

def all : CharSet := .complement .empty

/-- All characters but the line feed. -/
def withinLine : CharSet := .complement (.single '\n')

/-- The decimal digits of all scripts. -/
def digit : CharSet := .having (.category [.decimalNumber])

/-- The characters of words in all scripts. -/
def word : CharSet := .having .word

def blank : CharSet := .having .blank

def hexDigit : CharSet := unionOf [.range '0' '9', .range 'a' 'f', .range 'A' 'F']

/-- The set that a letter after a backslash names; a capital letter names the complement. -/
def ofShorthand? : Char → Option CharSet
  | 'd' => some digit
  | 'D' => some (.complement digit)
  | 'w' => some word
  | 'W' => some (.complement word)
  | 's' => some blank
  | 'S' => some (.complement blank)
  | _ => none

/-- The sets of ASCII characters that have a name inside a class. -/
def ofAsciiName? (name : String) : Option CharSet :=
  let digits := CharSet.range '0' '9'
  let smalls := CharSet.range 'a' 'z'
  let capitals := CharSet.range 'A' 'Z'
  match name with
  | "alnum" => some (unionOf [digits, smalls, capitals])
  | "alpha" => some (unionOf [smalls, capitals])
  | "ascii" => some (.range '\x00' '\x7f')
  | "blank" => some (unionOf [single '\t', single ' '])
  | "cntrl" => some (unionOf [.range '\x00' '\x1f', single '\x7f'])
  | "digit" => some digits
  | "graph" => some (.range '!' '~')
  | "lower" => some smalls
  | "print" => some (.range ' ' '~')
  | "punct" => some (unionOf [.range '!' '/', .range ':' '@', .range '[' '\x60', .range '\x7b' '~'])
  | "space" => some (unionOf [.range '\t' '\r', single ' '])
  | "upper" => some capitals
  | "word" => some (unionOf [digits, smalls, capitals, single '_'])
  | "xdigit" => some hexDigit
  | _ => none

end CharSet

end ApiAtlas
