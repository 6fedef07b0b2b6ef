import ColumnLint.Document.Yaml.Token

/-!
# YAML texts as tokens

The tokens of a text in order. Indentation opens and closes block structures, brackets open
and close flow structures, and a text or structure turns out to be a key only when the
colon after it is met. So a possible key is kept for every depth of brackets, and its token
is put in where it began.
-/

namespace ColumnLint.Yaml

/-- A place where a key may have begun. -/
structure PossibleKey where
  /-- The number of tokens before it. -/
  position : Nat
  /-- Whether it has to be a key, because it stands where block entries begin. -/
  required : Bool
  index : Nat
  line : Nat
  column : Nat

/-- What is known of a text up to some place. -/
structure Scanner where
  cursor : Cursor
  /-- The tokens so far, the last one first. -/
  tokens : List Token
  /-- How many brackets are open. -/
  depth : Int
  indent : Int
  indents : List Int
  /-- Whether a key may begin here. -/
  keyAllowed : Bool
  /-- The possible keys under the number of brackets open at their start. -/
  possible : List (Int × PossibleKey)

namespace Scanner

/-- The state before a text. -/
def start (cs : List Char) : Scanner := ⟨Cursor.start cs, [], 0, -1, [], true, []⟩

/-- Adds a token. -/
def push (s : Scanner) (t : Token) : Scanner := { s with tokens := t :: s.tokens }

/-- Whether no bracket is open. -/
def inBlock (s : Scanner) : Bool := s.depth = 0

/-- Puts a token in after the first `n` tokens. -/
def insertAt (s : Scanner) (n : Nat) (t : Token) : Scanner :=
  let later := s.tokens.length - n
  { s with tokens := s.tokens.take later ++ t :: s.tokens.drop later }

/-! ### Indentation -/

/-- Closes the block structures that are indented deeper than the column. -/
def closeBlocks (s : Scanner) (column : Int) : Scanner :=
  if !s.inBlock then s
  else
    let rec go (indent : Int) : List Int → List Token → Scanner
      | [], tokens => { s with indent := indent, indents := [], tokens := tokens }
      | outer :: more, tokens =>
        if column < indent then go outer more (.blockEnd :: tokens)
        else { s with indent := indent, indents := outer :: more, tokens := tokens }
    go s.indent s.indents s.tokens

/-- Opens a block structure at the column, if it is deeper than the last one; tells whether it
did. -/
def openBlock (s : Scanner) (column : Int) : Scanner × Bool :=
  if s.indent < column then
    ({ s with indents := s.indent :: s.indents, indent := column }, true)
  else (s, false)

/-! ### Possible keys -/

/-- Forgets the possible key of the present depth; one that had to be a key is a fault. -/
def dropKey (s : Scanner) : Except Fault Scanner :=
  match s.possible.lookup s.depth with
  | some k =>
    if k.required then .error .malformed
    else .ok { s with possible := s.possible.filter (·.1 ≠ s.depth) }
  | none => .ok s

/-- Notes that a key may begin here. -/
def noteKey (s : Scanner) : Except Fault Scanner :=
  if !s.keyAllowed then .ok s
  else do
    let s ← s.dropKey
    let k : PossibleKey :=
      { position := s.tokens.length
        required := s.inBlock && s.indent = s.cursor.column
        index := s.cursor.index
        line := s.cursor.line
        column := s.cursor.column }
    return { s with possible := (s.depth, k) :: s.possible }

/-- How long a key may be. -/
def longestKey : Nat := 1024

/-- Forgets the possible keys that began on another line or too far back. -/
def dropStaleKeys (s : Scanner) : Except Fault Scanner :=
  let isStale (k : PossibleKey) : Bool :=
    k.line ≠ s.cursor.line || longestKey < s.cursor.index - k.index
  if s.possible.any fun k => isStale k.2 && k.2.required then .error .malformed
  else .ok { s with possible := s.possible.filter fun k => !isStale k.2 }

/-! ### Steps over one token -/

/-- Over blanks, comments and line ends; outside brackets a key may begin after a line end. -/
def toNextToken : Nat → Scanner → Scanner
  | 0, s => s
  | fuel + 1, s =>
    let c := s.cursor.skipWhile (· = ' ')
    let c := if c.peek = '#' then c.skipWhile (fun x => !isBreakOrEnd x) else c
    if isBreak c.peek then
      toNextToken fuel { s with cursor := c.lineEnd.2, keyAllowed := s.keyAllowed || s.inBlock }
    else { s with cursor := c }

/-- A token of a number of characters, after which a key may begin or not. -/
def mark (s : Scanner) (t : Token) (width : Nat) (keyAllowed : Bool) : Scanner :=
  { s.push t with cursor := s.cursor.skip width, keyAllowed := keyAllowed }

/-- A line of three characters between documents. -/
def documentMark (s : Scanner) (t : Token) : Except Fault Scanner := do
  let s ← (s.closeBlocks (-1)).dropKey
  return s.mark t 3 false

/-- A bracket that opens a structure. -/
def openBracket (s : Scanner) (t : Token) : Except Fault Scanner := do
  let s ← s.noteKey
  return { s.mark t 1 true with depth := s.depth + 1 }

/-- A bracket that closes a structure. -/
def closeBracket (s : Scanner) (t : Token) : Except Fault Scanner := do
  let s ← s.dropKey
  return { s.mark t 1 false with depth := s.depth - 1 }

/-- A comma between brackets. -/
def flowEntry (s : Scanner) : Except Fault Scanner := do
  let s ← s.dropKey
  return s.mark .flowEntry 1 true

/-- Opens a block structure here outside brackets, where a key has to be allowed. -/
def openHere (s : Scanner) (t : Token) : Except Fault Scanner :=
  if !s.inBlock then .ok s
  else if !s.keyAllowed then .error .malformed
  else
    let (s, opened) := s.openBlock s.cursor.column
    .ok (if opened then s.push t else s)

/-- The hyphen of a block entry. -/
def blockEntry (s : Scanner) : Except Fault Scanner := do
  let s ← s.openHere .blockSequenceStart
  let s ← s.dropKey
  return s.mark .blockEntry 1 true

/-- The question mark of a key. -/
def explicitKey (s : Scanner) : Except Fault Scanner := do
  let s ← s.openHere .blockMappingStart
  let s ← s.dropKey
  return s.mark .key 1 s.inBlock

/-- The colon of a value: it makes a key of what may have been one. -/
def colon (s : Scanner) : Except Fault Scanner :=
  match s.possible.lookup s.depth with
  | some k =>
    let s := { s with possible := s.possible.filter (·.1 ≠ s.depth) }
    let s := s.insertAt k.position .key
    let s :=
      if s.inBlock then
        let (s, opened) := s.openBlock k.column
        if opened then s.insertAt k.position .blockMappingStart else s
      else s
    .ok (s.mark .value 1 false)
  | none => do
    let s ← s.openHere .blockMappingStart
    let s ← s.dropKey
    return s.mark .value 1 s.inBlock

/-- A token that can begin a key. -/
def keyPart (s : Scanner) (scan : Cursor → Except Fault (Token × Cursor)) :
    Except Fault Scanner := do
  let s ← s.noteKey
  let (t, c) ← scan s.cursor
  return { s.push t with cursor := c, keyAllowed := false }

/-- A plain text; after a line end behind it a key may begin. -/
def plain (s : Scanner) : Except Fault Scanner := do
  let s ← s.noteKey
  let (cs, c, crossed) := Token.scanPlainFrom (!s.inBlock) (s.indent + 1)
    (s.cursor.rest.length + 1) [] s.cursor false
  return { s.push (.scalar (String.ofList cs) true) with cursor := c, keyAllowed := crossed }

/-- A block of text. -/
def block (s : Scanner) : Except Fault Scanner := do
  let s ← s.dropKey
  let (text, c) ← Token.scanBlock s.indent s.cursor
  return { s.push (.scalar text false) with cursor := c, keyAllowed := true }

/-- The signs that no plain text begins with, apart from those of flow style. -/
def indicators : List Char :=
  ['-', '?', ':', '#', '&', '*', '!', '|', '>', '\'', '"', '%', '@', graveAccent]

/-- Whether a plain text can begin here. -/
def startsPlain (s : Scanner) : Bool :=
  let x := s.cursor.peek
  let follower := s.cursor.peekAt 1
  (!isGapOrEnd x && !isFlowSign x && !indicators.contains x) ||
    (!isGapOrEnd follower && (x = '-' || (s.inBlock && (x = '?' || x = ':'))))

/-- Over the next token. -/
def step (s : Scanner) : Except Fault Scanner :=
  let x := s.cursor.peek
  let atGap := isGapOrEnd (s.cursor.peekAt 1)
  let first := s.cursor.column = 0
  if x = '%' && first then do
    let s ← (s.closeBlocks (-1)).dropKey
    let (d, c) ← Token.scanDirective s.cursor
    return { s.push (.directive d) with cursor := c, keyAllowed := false }
  else if first && s.cursor.startsWith "---" && s.cursor.atMarker then s.documentMark .documentStart
  else if first && s.cursor.startsWith "..." && s.cursor.atMarker then s.documentMark .documentEnd
  else if x = '[' then s.openBracket .flowSequenceStart
  else if x = '\x7b' then s.openBracket .flowMappingStart
  else if x = ']' then s.closeBracket .flowSequenceEnd
  else if x = '\x7d' then s.closeBracket .flowMappingEnd
  else if x = ',' then s.flowEntry
  else if x = '-' && atGap then s.blockEntry
  else if x = '?' && (!s.inBlock || atGap) then s.explicitKey
  else if x = ':' && (!s.inBlock || atGap) then s.colon
  else if x = '*' then s.keyPart fun c => (Token.scanName c).map fun p => (.alias p.1, p.2)
  else if x = '&' then s.keyPart fun c => (Token.scanName c).map fun p => (.anchor p.1, p.2)
  else if x = '!' then s.keyPart fun c => (Token.scanTag c).map fun p => (.tag p.1, p.2)
  else if (x = '|' || x = '>') && s.inBlock then s.block
  else if x = '\'' || x = '"' then
    s.keyPart fun c => (Token.scanQuoted c).map fun p => (.scalar p.1 false, p.2)
  else if s.startsPlain then s.plain
  else .error .malformed

/-- The tokens from the present place on, at most `fuel` many steps. -/
def run : Nat → Scanner → Except Fault (List Token)
  | 0, _ => .error .malformed
  | fuel + 1, s => do
    let s ← (toNextToken (s.cursor.rest.length + 1) s).dropStaleKeys
    let s := s.closeBlocks s.cursor.column
    if s.cursor.peek = ending then
      let s ← (s.closeBlocks (-1)).dropKey
      return s.tokens.reverse
    else
      run fuel (← s.step)

end Scanner

/-- The tokens of a text. Every step takes at least one character. A mark of byte order at the
start is passed over. -/
def Token.ofText (cs : List Char) : Except Fault (List Token) :=
  if cs.all isAllowed then
    let s := Scanner.start cs
    let s := if cs.head? = some '\uFEFF' then { s with cursor := s.cursor.next } else s
    s.run (cs.length + 1)
  else .error .malformed

end ColumnLint.Yaml
