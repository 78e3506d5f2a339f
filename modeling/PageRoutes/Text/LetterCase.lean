import PageRoutes.Text.CodeRange
import PageRoutes.Text.LetterCaseTable
/-!
# Lower case

Full lower-casing by the rules and the data of Unicode 16.0. Every letter maps to its lower-case
form on its own, with two exceptions: `İ` becomes an `i` followed by a combining dot, and a capital
sigma that ends a word becomes the final sigma. A sigma ends a word when a letter with case stands
before it and none after it, where the characters of the ignorable class are skipped on both sides.
-/

namespace PageRoutes.LetterCase

/-- The lower-case code point of a code point, by the first row that holds it. -/
def lowerCode (n : Nat) : Nat :=
  match lowerRows.find? fun r => r.first ≤ n && n ≤ r.last && (n - r.first) % r.stride == 0 with
  | some r => r.image + (n - r.first)
  | none => n

/-- The lower-case form of one character away from any context. -/
def lowerChar (c : Char) : List Char :=
  if c.toNat < 0x80 then [c.toLower]
  else if c == 'İ' then ['i', '\u0307']
  else [Char.ofNat (lowerCode c.toNat)]

/-- Characters that are skipped when the context of a sigma is examined. -/
def isIgnorable (c : Char) : Bool :=
  if c.toNat < 0x80 then c == '\x27' || c == '.' || c == ':' || c == '^' || c == '\x60'
  else inRanges ignorableRows c.toNat

/-- Characters with letter case. -/
def isCased (c : Char) : Bool :=
  if c.toNat < 0x80 then c.isAlpha else inRanges casedRows c.toNat

/-- Whether the nearest character that is not skipped has letter case. -/
def meetsCased (cs : List Char) : Bool :=
  match cs.dropWhile isIgnorable with
  | c :: _ => isCased c
  | [] => false

/-- Lower-cases the characters that follow `before`, which is given in reverse. -/
def lowerFrom (before : List Char) : List Char → List Char
  | [] => []
  | c :: rest =>
    let form :=
      if c == 'Σ' then [if meetsCased before && !meetsCased rest then 'ς' else 'σ']
      else lowerChar c
    form ++ lowerFrom (c :: before) rest

/-- The lower-case form of a text. -/
def toLower (cs : List Char) : List Char := lowerFrom [] cs

end PageRoutes.LetterCase
