import ColumnLint.Document.Value
import ColumnLint.Document.Yaml.Cursor
import ColumnLint.Text.Utf8

/-!
# The words of YAML

Tokens, and how the text of each kind of token is read from its place: names of anchors,
tags, directives, quoted and plain texts, and blocks of text.
-/

namespace ColumnLint.Yaml

/-- A tag as written: its handle, if it has one, and what follows. -/
structure TagText where
  handle : Option String
  suffix : String
  deriving DecidableEq, Repr

/-- A directive before a document. -/
inductive Directive where
  | version (major minor : Nat)
  | tag (handle target : String)
  | unknown
  deriving DecidableEq, Repr

/-- A token of a YAML text. -/
inductive Token where
  | directive (d : Directive)
  | documentStart
  | documentEnd
  | blockSequenceStart
  | blockMappingStart
  | blockEnd
  | flowSequenceStart
  | flowSequenceEnd
  | flowMappingStart
  | flowMappingEnd
  | blockEntry
  | flowEntry
  | key
  | value
  | alias (name : String)
  | anchor (name : String)
  | tag (t : TagText)
  /-- A text; `plain` if it stands without quotes and is no block. -/
  | scalar (text : String) (plain : Bool)
  deriving DecidableEq, Repr

namespace Token

/-! ### Names, tags and directives -/

/-- An anchor's or alias's name after its sign. -/
def scanName (c : Cursor) : Except Fault (String × Cursor) :=
  let (name, after) := c.next.span isNameChar
  if name.isEmpty then .error .malformed
  else if isGapOrEnd after.peek ||
      ['?', ':', ',', ']', '\x7d', '%', '@', graveAccent].contains after.peek then
    .ok (String.ofList name, after)
  else .error .malformed

/-- The value of a hexadecimal digit. -/
def hexValue? (c : Char) : Option Nat :=
  if c.isDigit then some (c.toNat - '0'.toNat)
  else if 'a' ≤ c && c ≤ 'f' then some (c.toNat - 'a'.toNat + 10)
  else if 'A' ≤ c && c ≤ 'F' then some (c.toNat - 'A'.toNat + 10)
  else none

/-- The number that hexadecimal digits spell. -/
def hexNumber? (cs : List Char) : Option Nat :=
  cs.foldlM (fun n c => (hexValue? c).map (n * 16 + ·)) 0

/-- The octets of escapes `%xx` in a row. -/
def scanOctets : Nat → Cursor → Except Fault (List UInt8 × Cursor)
  | 0, _ => .error .malformed
  | fuel + 1, c =>
    if c.peek = '%' then
      let c := c.next
      match hexNumber? (c.rest.take 2) with
      | some n =>
        if c.rest.length < 2 then .error .malformed
        else (scanOctets fuel (c.skip 2)).map fun p => (UInt8.ofNat n :: p.1, p.2)
      | none => .error .malformed
    else .ok ([], c)

/-- Characters of a tag's suffix. -/
def isUriChar (c : Char) : Bool :=
  c.isAlphanum || "-;/?:@&=+$,_.!~*'()[]".toList.contains c

/-- The suffix of a tag from its pieces. -/
def scanUriFrom : Nat → Cursor → Except Fault (List Char × Cursor)
  | 0, _ => .error .malformed
  | fuel + 1, c =>
    if c.peek = '%' then
      match scanOctets (c.rest.length + 1) c with
      | .error e => .error e
      | .ok (octets, c) =>
        match Text.Utf8.decode octets with
        | .ok s => (scanUriFrom fuel c).map fun p => (s.toList ++ p.1, p.2)
        | .error _ => .error .malformed
    else
      let (taken, after) := c.span isUriChar
      if taken.isEmpty then .ok ([], c)
      else (scanUriFrom fuel after).map fun p => (taken ++ p.1, p.2)

/-- The suffix of a tag, at least one character long. -/
def scanUri (c : Cursor) : Except Fault (String × Cursor) :=
  match scanUriFrom (c.rest.length + 1) c with
  | .error e => .error e
  | .ok (cs, after) =>
    if after.index = c.index then .error .malformed else .ok (String.ofList cs, after)

/-- The handle of a tag: `!`, or a name between two of them. -/
def scanHandle (c : Cursor) : Except Fault (String × Cursor) :=
  if c.peek ≠ '!' then .error .malformed
  else
    let (name, after) := c.next.span isNameChar
    if after.peek = '!' then .ok (String.ofList ('!' :: name ++ ['!']), after.next)
    else if name.isEmpty && after.peek = ' ' then .ok ("!", after)
    else .error .malformed

/-- A tag with the place after it, which has to be a gap. -/
def scanTag (c : Cursor) : Except Fault (TagText × Cursor) :=
  let finish (t : TagText) (after : Cursor) : Except Fault (TagText × Cursor) :=
    if isSpaceOrEnd after.peek then .ok (t, after) else .error .malformed
  let x := c.peekAt 1
  if x = '<' then do
    let (suffix, after) ← scanUri (c.skip 2)
    if after.peek = '>' then finish ⟨none, suffix⟩ after.next else .error .malformed
  else if isGapOrEnd x then finish ⟨none, "!"⟩ c.next
  else
    let word := (c.rest.drop 1).takeWhile fun x => !isSpaceOrEnd x
    if word.contains '!' then do
      let (handle, after) ← scanHandle c
      let (suffix, after) ← scanUri after
      finish ⟨some handle, suffix⟩ after
    else do
      let (suffix, after) ← scanUri c.next
      finish ⟨some "!", suffix⟩ after

/-- A number of a version. -/
def scanVersionNumber (c : Cursor) : Except Fault (Nat × Cursor) :=
  let (digits, after) := c.span Char.isDigit
  if digits.isEmpty then .error .malformed
  else if Value.longestInteger < digits.length then .error (.longInteger digits.length)
  else .ok (digits.foldl (fun n d => n * 10 + (d.toNat - '0'.toNat)) 0, after)

/-- A directive after its sign. -/
def scanDirective (c : Cursor) : Except Fault (Directive × Cursor) := do
  let (name, after) := c.next.span isNameChar
  if name.isEmpty || !isSpaceOrEnd after.peek then .error .malformed
  else
    let afterSpaces := after.skipWhile (· = ' ')
    let (d, after) ←
      match String.ofList name with
      | "YAML" => do
        let (major, c) ← scanVersionNumber afterSpaces
        if c.peek ≠ '.' then .error .malformed
        else
          let (minor, c) ← scanVersionNumber c.next
          if isSpaceOrEnd c.peek then .ok (Directive.version major minor, c) else .error .malformed
      | "TAG" => do
        let (handle, c) ← scanHandle afterSpaces
        if c.peek ≠ ' ' then .error .malformed
        else
          let (target, c) ← scanUri (c.skipWhile (· = ' '))
          if isSpaceOrEnd c.peek then .ok (Directive.tag handle target, c) else .error .malformed
      | _ => .ok (Directive.unknown, after.skipWhile fun x => !isBreakOrEnd x)
    return (d, ← after.restOfLine)

/-! ### Quoted texts -/

/-- The character that a letter stands for after a backslash. -/
def namedEscape? : Char → Option Nat
  | '0' => some 0
  | 'a' => some 0x07
  | 'b' => some 0x08
  | 't' => some 0x09
  | '\t' => some 0x09
  | 'n' => some 0x0A
  | 'v' => some 0x0B
  | 'f' => some 0x0C
  | 'r' => some 0x0D
  | 'e' => some 0x1B
  | ' ' => some 0x20
  | '"' => some 0x22
  | '\\' => some 0x5C
  | '/' => some 0x2F
  | 'N' => some 0x85
  | '_' => some 0xA0
  | 'L' => some 0x2028
  | 'P' => some 0x2029
  | _ => none

/-- The number of digits after a letter that announces a code point. -/
def escapeWidth? : Char → Option Nat
  | 'x' => some 2
  | 'u' => some 4
  | 'U' => some 8
  | _ => none

/-- Line ends and the blanks around them, up to other text: what they stand for. -/
def scanBreaks : Nat → Cursor → Except Fault (List Char × Cursor)
  | 0, _ => .error .malformed
  | fuel + 1, c =>
    if c.atMarker then .error .malformed
    else
      let c := c.skipWhile fun x => x = ' ' || x = '\t'
      if isBreak c.peek then
        let (brk, c) := c.lineEnd
        (scanBreaks fuel c).map fun p => (brk ++ p.1, p.2)
      else .ok ([], c)

/-- A gap in a quoted text: blanks stand for themselves, a single line end for a space, and of
several the first is dropped. -/
def scanGap (c : Cursor) : Except Fault (List Char × Cursor) :=
  let (blanks, after) := c.span fun x => x = ' ' || x = '\t'
  if after.peek = ending then .error .malformed
  else if isBreak after.peek then
    let (brk, after) := after.lineEnd
    match scanBreaks (after.rest.length + 1) after with
    | .error e => .error e
    | .ok (breaks, after) =>
      let lead := if brk ≠ ['\n'] then brk else if breaks.isEmpty then [' '] else []
      .ok (lead ++ breaks, after)
  else .ok (blanks, after)

/-- The character of a code point; one half of a pair alone is replaced. -/
def charOfCode (n : Nat) : Char :=
  if n.isValidChar then Char.ofNat n else Char.ofNat 0xFFFD

/-- An escape after its backslash. -/
def scanEscape (c : Cursor) : Except Fault (List Char × Cursor) :=
  let x := c.peek
  match namedEscape? x with
  | some n => .ok ([Char.ofNat n], c.next)
  | none =>
    match escapeWidth? x with
    | some width =>
      let digits := c.next.rest.take width
      if digits.length < width then .error .malformed
      else
        match hexNumber? digits with
        | none => .error .malformed
        | some n =>
          if 0x110000 ≤ n then .error (.outOfRange "chr() arg not in range(0x110000)")
          else .ok ([charOfCode n], c.next.skip width)
    | none =>
      if isBreak x then scanBreaks (c.rest.length + 1) c.lineEnd.2 else .error .malformed

/-- A quoted text after its opening quote, up to and over the closing one. -/
def scanQuotedFrom (double : Bool) : Nat → Cursor → Except Fault (List Char × Cursor)
  | 0, _ => .error .malformed
  | fuel + 1, c =>
    let more (p : List Char × Cursor) : Except Fault (List Char × Cursor) :=
      (scanQuotedFrom double fuel p.2).map fun q => (p.1 ++ q.1, q.2)
    let x := c.peek
    if x = ending then .error .malformed
    else if isGapOrEnd x then
      match scanGap c with
      | .error e => .error e
      | .ok p => more p
    else if !double && x = '\'' && c.peekAt 1 = '\'' then more (['\''], c.skip 2)
    else if x = (if double then '"' else '\'') then .ok ([], c.next)
    else if double && x = '\\' then
      match scanEscape c.next with
      | .error e => .error e
      | .ok p => more p
    else more ([x], c.next)

/-- A quoted text from its opening quote on. -/
def scanQuoted (c : Cursor) : Except Fault (String × Cursor) :=
  (scanQuotedFrom (c.peek = '"') (c.rest.length + 1) c.next).map fun p => (String.ofList p.1, p.2)

/-! ### Plain texts -/

/-- The length of the part of a plain text that stands on one line without blanks. -/
def plainLength (inFlow : Bool) : List Char → Nat
  | [] => 0
  | x :: r =>
    let follower := r.headD ending
    if isGapOrEnd x then 0
    else if x = ':' && (isGapOrEnd follower || (inFlow && isFlowSign follower)) then 0
    else if inFlow && (x = '?' || isFlowSign x) then 0
    else plainLength inFlow r + 1

/-- Line ends and spaces in a plain text: what they stand for. -/
def scanPlainBreaks : Nat → Cursor → Option (List Char × Cursor)
  | 0, _ => none
  | fuel + 1, c =>
    let c := c.skipWhile (· = ' ')
    if isBreak c.peek then
      let (brk, c) := c.lineEnd
      if c.atMarker then none else (scanPlainBreaks fuel c).map fun p => (brk ++ p.1, p.2)
    else some ([], c)

/-- What a gap in a plain text stands for, the place after it, and whether it holds a line end. A
document marker ends the text. -/
def scanPlainGap (c : Cursor) : List Char × Cursor × Bool :=
  let (blanks, after) := c.span (· = ' ')
  if isBreak after.peek then
    let (brk, after) := after.lineEnd
    if after.atMarker then ([], after, true)
    else
      match scanPlainBreaks (after.rest.length + 1) after with
      | none => ([], after, true)
      | some (breaks, after) =>
        let lead := if brk ≠ ['\n'] then brk else if breaks.isEmpty then [' '] else []
        (lead ++ breaks, after, true)
  else (blanks, after, false)

/-- A plain text with the place after it, and whether a line end stands behind its last word. -/
def scanPlainFrom (inFlow : Bool) (indent : Int) : Nat → List Char → Cursor → Bool →
    List Char × Cursor × Bool
  | 0, _, c, crossed => ([], c, crossed)
  | fuel + 1, gap, c, crossed =>
    let n := plainLength inFlow c.rest
    if c.peek = '#' || n = 0 then ([], c, crossed)
    else
      let word := c.rest.take n
      let (gap', after, broken) := scanPlainGap (c.skip n)
      if gap'.isEmpty || after.peek = '#' || (!inFlow && (after.column : Int) < indent) then
        (gap ++ word, after, broken)
      else
        let (more, after, crossed) := scanPlainFrom inFlow indent fuel gap' after broken
        (gap ++ word ++ more, after, crossed)

/-! ### Blocks of text -/

/-- How the line ends at the end of a block count. -/
inductive Chomping where
  | strip
  | clip
  | keep
  deriving DecidableEq, Repr

/-- The header of a block: its chomping and, if given, its indentation. -/
def scanBlockHeader (c : Cursor) : Except Fault ((Chomping × Option Nat) × Cursor) :=
  let sign? (x : Char) : Option Chomping :=
    if x = '+' then some .keep else if x = '-' then some .strip else none
  let finish (chomping : Chomping) (indent : Option Nat) (c : Cursor) :
      Except Fault ((Chomping × Option Nat) × Cursor) :=
    if indent = some 0 || !isSpaceOrEnd c.peek then .error .malformed
    else .ok ((chomping, indent), c)
  match sign? c.peek with
  | some chomping =>
    let c := c.next
    if c.peek.isDigit then finish chomping (some (c.peek.toNat - '0'.toNat)) c.next
    else finish chomping none c
  | none =>
    if c.peek.isDigit then
      let indent := c.peek.toNat - '0'.toNat
      let c := c.next
      match sign? c.peek with
      | some chomping => finish chomping (some indent) c.next
      | none => finish .clip (some indent) c
    else finish .clip none c

/-- The line ends before the first line of a block, the greatest column met, and the place. -/
def scanBlockIndent : Nat → Nat → Cursor → List Char × Nat × Cursor
  | 0, deepest, c => ([], deepest, c)
  | fuel + 1, deepest, c =>
    if isBreak c.peek then
      let (brk, c) := c.lineEnd
      let (breaks, deepest, c) := scanBlockIndent fuel deepest c
      (brk ++ breaks, deepest, c)
    else if c.peek = ' ' then
      let c := c.next
      scanBlockIndent fuel (max deepest c.column) c
    else ([], deepest, c)

/-- Line ends between lines of a block, with the indentation of the next line skipped. -/
def scanBlockBreaks (indent : Nat) : Nat → Cursor → List Char × Cursor
  | 0, c => ([], c)
  | fuel + 1, c =>
    let spaces := (c.rest.take (indent - c.column)).takeWhile (· = ' ')
    let c := c.skip spaces.length
    if isBreak c.peek then
      let (brk, c) := c.lineEnd
      let (breaks, c) := scanBlockBreaks indent fuel c
      (brk ++ breaks, c)
    else ([], c)

/-- The lines of a block; `breaks` are the line ends before the next line. Gives the text, the last
line end, the line ends after it and the place. -/
def scanBlockLines (folded : Bool) (indent : Nat) : Nat → List Char → Cursor →
    List Char × List Char × List Char × Cursor
  | 0, breaks, c => ([], [], breaks, c)
  | fuel + 1, breaks, c =>
    let startsWithText := c.peek ≠ ' ' && c.peek ≠ '\t'
    let (line, after) := c.span fun x => !isBreakOrEnd x
    let (brk, after) := after.lineEnd
    let (breaks', after) := scanBlockBreaks indent (after.rest.length + 1) after
    if after.column = indent && after.peek ≠ ending then
      let joint :=
        if folded && brk = ['\n'] && startsWithText && after.peek ≠ ' ' && after.peek ≠ '\t' then
          if breaks'.isEmpty then [' '] else []
        else brk
      let (more, last, left, c) := scanBlockLines folded indent fuel breaks' after
      (breaks ++ line ++ joint ++ more, last, left, c)
    else (breaks ++ line, brk, breaks', after)

/-- A block of text from its sign on, inside a structure with the given indentation. -/
def scanBlock (outer : Int) (c : Cursor) : Except Fault (String × Cursor) := do
  let folded := c.peek = '>'
  let ((chomping, given), c) ← scanBlockHeader c.next
  let c ← c.restOfLine
  let least := (outer + 1).toNat.max 1
  let fuel := c.rest.length + 1
  let (indent, breaks, c) :=
    match given with
    | some n =>
      let indent := least + n - 1
      let (breaks, c) := scanBlockBreaks indent fuel c
      (indent, breaks, c)
    | none =>
      let (breaks, deepest, c) := scanBlockIndent fuel 0 c
      (max least deepest, breaks, c)
  let (text, last, left, c) :=
    if c.column = indent && c.peek ≠ ending then scanBlockLines folded indent fuel breaks c
    else ([], [], breaks, c)
  let tail :=
    match chomping with
    | .strip => []
    | .clip => last
    | .keep => last ++ left
  return (String.ofList (text ++ tail), c)

end Token

end ColumnLint.Yaml
