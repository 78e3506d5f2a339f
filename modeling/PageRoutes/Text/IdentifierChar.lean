import PageRoutes.Text.CodeRange
import PageRoutes.Text.IdentifierTable
/-!
# Characters of an identifier

An ECMAScript identifier begins with a letter, `$` or `_` and goes on with these, digits and the two
joiners. Beyond ASCII the letters are those of the Unicode properties `ID_Start` and `ID_Continue`.
-/

namespace PageRoutes.IdentifierChar

/-- Whether a character may begin an identifier. -/
def isStart (c : Char) : Bool :=
  if c.toNat < 0x80 then c.isAlpha || c == '$' || c == '_' else inRanges startRows c.toNat

/-- Whether a character may follow in an identifier. -/
def isContinue (c : Char) : Bool :=
  if c.toNat < 0x80 then c.isAlphanum || c == '$' || c == '_'
  else c == '\u200c' || c == '\u200d' || inRanges continueRows c.toNat

end PageRoutes.IdentifierChar
