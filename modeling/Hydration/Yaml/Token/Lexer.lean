/-
From text to tokens. A key is known for one only when its colon is met, by then its own tokens have
been read: so every place where a key may begin is remembered, and the tokens from there on are held
back until the colon comes or the place is out of date. Tokens in front of all such places are final
and are passed on; they count as read even if a later part of the text is faulty.

The indentation of block collections is kept as a list of columns, innermost first. There is one
place for a key per open flow collection, and one for the block around them.
-/
import Hydration.Yaml.Scalar
import Hydration.Yaml.Token.Property

namespace Hydration.Yaml

-- ============================================================ the state

/-- A place where a key may begin. -/
structure KeyPlace where
  /-- How many tokens come before it. -/
  number : Nat
  /-- The indentation admits nothing but a key here. -/
  required : Bool
  index : Nat
  line : Nat
  column : Nat

structure Lexer where
  cursor : Cursor
  /-- The tokens passed on, last first, and their number. -/
  passed : List Token
  passedCount : Nat
  /-- The tokens held back. -/
  held : List Token
  /-- The columns of the open block collections, innermost first. -/
  indents : List Nat
  /-- The place for a key in the innermost collection, and those of the flow collections around. -/
  place : Option KeyPlace
  outerPlaces : List (Option KeyPlace)
  /-- A key of a block collection may begin here. -/
  keyAllowed : Bool
  finished : Bool

namespace Lexer

def start (text : List Char) : Lexer where
  cursor := Cursor.start text
  passed := []
  passedCount := 0
  held := []
  indents := []
  place := none
  outerPlaces := []
  keyAllowed := true
  finished := false

def inFlow (lexer : Lexer) : Bool := !lexer.outerPlaces.isEmpty

/-- The surroundings of a scalar: its further lines lie deeper than the block around it. -/
def surroundings (lexer : Lexer) : Surroundings where
  inFlow := lexer.inFlow
  indent := match lexer.indents with
    | column :: _ => column + 1
    | [] => 0

def emit (lexer : Lexer) (token : Token) : Lexer := { lexer with held := lexer.held ++ [token] }

/-- Puts a token in front of the one with the given number, which is still held back. -/
def emitAt (lexer : Lexer) (number : Nat) (token : Token) : Lexer :=
  let position := number - lexer.passedCount
  { lexer with held := lexer.held.take position ++ token :: lexer.held.drop position }

/-- Passes the characters of a token. -/
def consume (lexer : Lexer) (count : Nat) : Lexer :=
  { lexer with cursor := lexer.cursor.skip count }

-- ============================================================ places for keys

/-- A key ends on its line, and within 1024 octets. -/
def isStale (cursor : Cursor) (place : KeyPlace) : Bool :=
  place.line < cursor.line || place.index + 1024 < cursor.index

/-- Forgets a place for a key; fails where a key had to be. -/
def forget? (place : Option KeyPlace) : Option (Option KeyPlace) :=
  if place.any (·.required) then none else some none

def forgetStale? (cursor : Cursor) (place : Option KeyPlace) : Option (Option KeyPlace) :=
  if place.any (isStale cursor) then forget? place else some place

/-- Forgets all places that are out of date. -/
def dropStale? (lexer : Lexer) : Option Lexer := do
  let outerPlaces ← lexer.outerPlaces.mapM (forgetStale? lexer.cursor)
  let place ← forgetStale? lexer.cursor lexer.place
  some { lexer with place, outerPlaces }

/-- The innermost collection has no key before this point. -/
def dropPlace? (lexer : Lexer) : Option Lexer := do
  let place ← forget? lexer.place
  some { lexer with place }

/-- Remembers this point as a place for a key, where one is allowed. -/
def markPlace? (lexer : Lexer) : Option Lexer :=
  if !lexer.keyAllowed then some lexer
  else do
    let lexer ← lexer.dropPlace?
    let cursor := lexer.cursor
    let place : KeyPlace := {
      number := lexer.passedCount + lexer.held.length
      required := !lexer.inFlow && lexer.indents.head? = some cursor.column
      index := cursor.index
      line := cursor.line
      column := cursor.column }
    some { lexer with place := some place }

-- ============================================================ indentation

/-- Opens a block collection at a column that lies deeper than the open ones. -/
def openBlock (lexer : Lexer) (column number : Nat) (token : Token) : Lexer :=
  if lexer.inFlow || lexer.indents.head?.any (column ≤ ·) then lexer
  else { lexer.emitAt number token with indents := column :: lexer.indents }

/-- Opens a block collection in front of what comes next. -/
def openBlockHere (lexer : Lexer) (token : Token) : Lexer :=
  lexer.openBlock lexer.cursor.column (lexer.passedCount + lexer.held.length) token

/-- Closes the block collections that lie deeper than a column, or all of them. -/
def closeBlocks (lexer : Lexer) (column : Option Nat) : Lexer :=
  if lexer.inFlow then lexer
  else
    let ends (indent : Nat) : Bool := column.all (· < indent)
    { lexer with
      held := lexer.held ++ (lexer.indents.takeWhile ends).map fun _ => Token.blockEnd
      indents := lexer.indents.dropWhile ends }

-- ============================================================ the next token

/-- Passes blanks, comments and line breaks, and a byte order mark at the start of a line. A new line
admits a key, outside of flow collections; tabs cannot stand where one is admitted. -/
def toNextToken : Nat → Lexer → Lexer
  | 0, lexer => lexer
  | fuel + 1, lexer =>
    let cursor := lexer.cursor
    let cursor :=
      if cursor.column = 0 ∧ cursor.sees byteOrderMark then cursor.skip 1 else cursor
    let tabs := lexer.inFlow || !lexer.keyAllowed
    let cursor := cursor.skipWhile fun c => c = ' ' || (tabs && c = '\t')
    let cursor := if cursor.sees '#' then cursor.skipLine else cursor
    match cursor.readBreak? with
    | some (_, next) =>
      toNextToken fuel
        { lexer with cursor := next, keyAllowed := lexer.keyAllowed || !lexer.inFlow }
    | none => { lexer with cursor }

/-- The end of the text closes everything. It counts as a line of its own. -/
def readEnd? (lexer : Lexer) : Option Lexer := do
  let lexer ← (lexer.closeBlocks none).dropPlace?
  let cursor :=
    if lexer.cursor.column = 0 then lexer.cursor
    else { lexer.cursor with line := lexer.cursor.line + 1, column := 0 }
  some { lexer.emit .streamEnd with cursor, keyAllowed := false, finished := true }

def readDirective? (lexer : Lexer) : Option Lexer := do
  let lexer ← (lexer.closeBlocks none).dropPlace?
  let (token, cursor) ← Directive.read? lexer.cursor
  some { lexer.emit token with keyAllowed := false, cursor }

def readDocumentMark? (lexer : Lexer) (token : Token) : Option Lexer := do
  let lexer ← (lexer.closeBlocks none).dropPlace?
  some { (lexer.consume 3).emit token with keyAllowed := false }

def openFlow? (lexer : Lexer) (token : Token) : Option Lexer := do
  let lexer ← lexer.markPlace?
  some { (lexer.consume 1).emit token with
    place := none, outerPlaces := lexer.place :: lexer.outerPlaces, keyAllowed := true }

def closeFlow? (lexer : Lexer) (token : Token) : Option Lexer := do
  let lexer ← lexer.dropPlace?
  let lexer := { (lexer.consume 1).emit token with keyAllowed := false }
  match lexer.outerPlaces with
  | place :: outerPlaces => some { lexer with place, outerPlaces }
  | [] => some lexer

def readFlowEntry? (lexer : Lexer) : Option Lexer := do
  let lexer ← lexer.dropPlace?
  some { (lexer.consume 1).emit .flowEntry with keyAllowed := true }

/-- A dash opens a sequence, unless one is open at this column. -/
def readBlockEntry? (lexer : Lexer) : Option Lexer :=
  if !lexer.inFlow && !lexer.keyAllowed then none
  else do
    let lexer ← (lexer.openBlockHere .blockSequenceStart).dropPlace?
    some { (lexer.consume 1).emit .blockEntry with keyAllowed := true }

/-- A question mark opens a mapping, unless one is open at this column. -/
def readKey? (lexer : Lexer) : Option Lexer :=
  if !lexer.inFlow && !lexer.keyAllowed then none
  else do
    let lexer ← (lexer.openBlockHere .blockMappingStart).dropPlace?
    some { (lexer.consume 1).emit .key with keyAllowed := !lexer.inFlow }

/-- A colon makes a key of what began at the remembered place, which may open a mapping there.
Without such a place it has an empty key. -/
def readValue? (lexer : Lexer) : Option Lexer :=
  match lexer.place with
  | some place =>
    let lexer := lexer.emitAt place.number .key
    let lexer := lexer.openBlock place.column place.number .blockMappingStart
    some { (lexer.consume 1).emit .value with place := none, keyAllowed := false }
  | none =>
    if !lexer.inFlow && !lexer.keyAllowed then none
    else
      let lexer := lexer.openBlockHere .blockMappingStart
      some { (lexer.consume 1).emit .value with keyAllowed := !lexer.inFlow }

/-- Anchors, aliases and tags may belong to a key. What follows decides where they end. -/
def readProperty? (lexer : Lexer) (read? : Cursor → Option (Token × Cursor)) : Option Lexer := do
  let lexer ← lexer.markPlace?
  let (token, cursor) ← read? lexer.cursor
  if cursor.inSight 1 then some { lexer.emit token with keyAllowed := false, cursor } else none

/-- A block scalar ends where the next line begins in a column further to the left. -/
def readBlockScalar? (lexer : Lexer) : Option Lexer := do
  let lexer ← lexer.dropPlace?
  let (text, cursor) ← Block.read? lexer.indents.head? lexer.cursor
  if cursor.inSight 1 then
    some { lexer.emit (.scalar ⟨String.ofList text, false⟩) with keyAllowed := true, cursor }
  else none

def readQuoted? (lexer : Lexer) (quote : Quote) : Option Lexer := do
  let lexer ← lexer.markPlace?
  let (text, cursor) ← quote.read? lexer.cursor
  some { lexer.emit (.scalar ⟨String.ofList text, false⟩) with keyAllowed := false, cursor }

def readPlain? (lexer : Lexer) : Option Lexer := do
  let lexer ← lexer.markPlace?
  let (text, crossed, cursor) ← Plain.read? lexer.surroundings lexer.cursor
  some { lexer.emit (.scalar ⟨String.ofList text, true⟩) with keyAllowed := crossed, cursor }

/-- Whether a plain scalar can begin here. -/
def startsPlain (lexer : Lexer) (c : Char) : Bool :=
  let lone := lexer.cursor.gapAt 1
  !(isGap c || isIndicator c) || (c = '-' && !(lexer.cursor.peekAt? 1).any isSpace) ||
    (!lexer.inFlow && (c = '?' || c = ':') && !lone)

/-- Reads the token that begins with a character. -/
def readAt? (lexer : Lexer) (c : Char) : Option Lexer :=
  let cursor := lexer.cursor
  let loose := lexer.inFlow || cursor.gapAt 1
  if cursor.column = 0 ∧ c = '%' then lexer.readDirective?
  else if cursor.atDocumentMark '-' then lexer.readDocumentMark? .documentStart
  else if cursor.atDocumentMark '.' then lexer.readDocumentMark? .documentEnd
  else if c = '[' then lexer.openFlow? .flowSequenceStart
  else if c = '{' then lexer.openFlow? .flowMappingStart
  else if c = ']' then lexer.closeFlow? .flowSequenceEnd
  else if c = '}' then lexer.closeFlow? .flowMappingEnd
  else if c = ',' then lexer.readFlowEntry?
  else if c = '-' ∧ cursor.gapAt 1 then lexer.readBlockEntry?
  else if c = '?' ∧ loose then lexer.readKey?
  else if c = ':' ∧ loose then lexer.readValue?
  else if c = '*' then
    lexer.readProperty? fun cursor => (readAnchor? cursor).map fun (name, next) => (.alias name, next)
  else if c = '&' then
    lexer.readProperty? fun cursor => (readAnchor? cursor).map fun (name, next) => (.anchor name, next)
  else if c = '!' then lexer.readProperty? (Tag.property? lexer.inFlow)
  else if (c = '|' ∨ c = '>') ∧ !lexer.inFlow then lexer.readBlockScalar?
  else if c = '\'' then lexer.readQuoted? .single
  else if c = '"' then lexer.readQuoted? .double
  else if lexer.startsPlain c then lexer.readPlain?
  else none

/-- Reads the next token, with the block ends in front of it. It could be a mark of the document, so
that four characters have to be in sight. -/
def readToken? (lexer : Lexer) : Option Lexer := do
  let lexer ← (toNextToken (lexer.cursor.rest.length + 1) lexer).dropStale?
  if !lexer.cursor.inSight 4 then none
  else
    match lexer.cursor.peek? with
    | none => lexer.readEnd?
    | some c => (lexer.closeBlocks (some lexer.cursor.column)).readAt? c

-- ============================================================ the whole text

/-- Passes on the tokens in front of every place where a key may still begin. -/
def release (lexer : Lexer) : Lexer :=
  let places := (lexer.place :: lexer.outerPlaces).filterMap (·.map KeyPlace.number)
  let free := places.foldl min (lexer.passedCount + lexer.held.length) - lexer.passedCount
  { lexer with
    passed := (lexer.held.take free).reverse ++ lexer.passed
    passedCount := lexer.passedCount + free
    held := lexer.held.drop free }

/-- Reads until the end of the text or a fault. -/
def run : Nat → Lexer → List Token
  | 0, lexer => lexer.passed.reverse
  | fuel + 1, lexer =>
    match lexer.readToken?.bind dropStale? with
    | none => lexer.passed.reverse
    | some next =>
      let next := next.release
      if next.finished then next.passed.reverse else run fuel next

end Lexer

/-- The tokens of a text. The last one is the end of the stream if and only if the text could be read
to its end. -/
def Token.ofText (text : List Char) : List Token := Lexer.run (text.length + 2) (Lexer.start text)

end Hydration.Yaml
