/-
The classes of characters that the settings language tells apart. A line can end in six ways, white
space inside a line is a space or a tab, and what cannot be printed may not stand in a text at all.
-/

namespace Hydration.Yaml

/-- Line feed, carriage return, next line, line separator, paragraph separator. -/
def isBreak (c : Char) : Bool :=
  c = '\n' || c = '\r' || c = '\u0085' || c = '\u2028' || c = '\u2029'

/-- White space inside a line. -/
def isSpace (c : Char) : Bool := c = ' ' || c = '\t'

def isGap (c : Char) : Bool := isSpace c || isBreak c

/-- Letters, digits, dash and underscore: the characters of anchors and of handles of tags. -/
def isNameChar (c : Char) : Bool := c.isAlphanum || c = '_' || c = '-'

/-- The brackets and the comma that give flow collections their shape. -/
def isFlowMark (c : Char) : Bool := c = ',' || c = '[' || c = ']' || c = '{' || c = '}'

/-- Characters that mean something at the start of a value, so that a plain one cannot begin with
them. -/
def isIndicator (c : Char) : Bool :=
  isFlowMark c || "-?:#&*!|>'\"%@`".toList.contains c

/-- The mark that some editors put in front of a text. -/
def byteOrderMark : Char := '\uFEFF'

/-- Characters that may stand in a text at all. -/
def isAllowed (c : Char) : Bool :=
  let n := c.toNat
  n == 0x09 || n == 0x0A || n == 0x0D || (0x20 ≤ n && n ≤ 0x7E) || n == 0x85 ||
    (0xA0 ≤ n && n ≤ 0xD7FF) || (0xE000 ≤ n && n ≤ 0xFFFD) || 0x10000 ≤ n

end Hydration.Yaml
