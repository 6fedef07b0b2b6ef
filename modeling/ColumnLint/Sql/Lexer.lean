import ColumnLint.Sql.Dialect
import ColumnLint.Text.Blank
import ColumnLint.Text.Word

/-!
# Cutting a script into tokens

Tokens are the units that a script is made of, with the comments that belong to them.
Comments are not tokens: a comment belongs to the token before it if no line break lies
between them, otherwise to the token after it (`Lexer.comment`). Comments before a semicolon or
at the end of the script belong to the token before them. A text, name or comment that does not
end makes the script unreadable.
-/

namespace ColumnLint.Sql

open ColumnLint.Text

/-! ### Tokens -/

/-- What sort of unit a token is. -/
inductive TokenKind where
  /-- A word without quotes; words that stand for one thing together, such as `PRIMARY KEY`, are
  one token. -/
  | word
  /-- A name between quotes. -/
  | name
  /-- A text between quotes. -/
  | string
  | number
  /-- An operator, a bracket or a mark. -/
  | sign
  deriving DecidableEq, Repr

/-- A unit of a script. -/
structure Token where
  kind : TokenKind
  /-- What it says, without quotes. -/
  text : String
  /-- The comments attached to it. -/
  comments : List String
  /-- Whether it follows the token before it without a gap. -/
  joined : Bool
  deriving DecidableEq, Repr

/-! ### What the dialects differ in -/

/-- Whether comments may stand within comments. -/
def Dialect.nestsComments : Dialect → Bool
  | .tsql | .postgres | .databricks | .redshift | .standard => true
  | .snowflake | .mysql | .bigquery | .oracle => false

/-- What begins a comment that ends with its line. -/
def Dialect.lineComments : Dialect → List String
  | .snowflake => ["--", "//"]
  | .mysql | .bigquery => ["--", "#"]
  | _ => ["--"]

/-- The character that ends a quoted name which begins with the given one. -/
def Dialect.nameQuote? : Dialect → Char → Option Char
  | .tsql, c => if c = '[' then some ']' else if c = '"' then some '"' else none
  | .mysql, c | .bigquery, c | .databricks, c =>
    if c.toNat = 0x60 then some c else none
  | _, c => if c = '"' then some c else none

/-- The characters that quote texts. -/
def Dialect.stringQuotes : Dialect → List Char
  | .mysql | .bigquery | .databricks => ['\'', '"']
  | _ => ['\'']

/-- The characters that may stand before a quote to make it part of a text. -/
def Dialect.stringEscapes : Dialect → List Char
  | .snowflake | .redshift => ['\\', '\'']
  | .mysql => ['\'', '"', '\\']
  | .bigquery | .databricks => ['\\']
  | _ => ['\'']

/-- Whether a backslash begins an escape sequence in texts. -/
def Dialect.hasBackslash (d : Dialect) : Bool := d.stringEscapes.contains '\\'

/-- The signs that may stand within a word, though not begin it. -/
def Dialect.wordSigns : Dialect → List Char
  | .tsql | .oracle => ['#', '$', '@']
  | .snowflake | .postgres | .redshift => ['$']
  | _ => []

/-- Whether a word may begin with a digit. -/
def Dialect.allowsLeadingDigit : Dialect → Bool
  | .mysql | .databricks => true
  | _ => false

/-- The letters that may stand right before the quote of a text. -/
def Dialect.stringMarks : Dialect → List Char
  | .postgres | .redshift => ['N', 'B', 'X', 'E']
  | .mysql | .snowflake => ['N', 'B', 'X']
  | .bigquery | .databricks => ['N', 'B', 'X', 'R']
  | _ => ['N']

/-- Whether texts may stand between dollar signs. -/
def Dialect.hasDollarQuotes : Dialect → Bool
  | .snowflake | .postgres | .redshift => true
  | _ => false

/-- The words that stand for one thing together. -/
def Dialect.compounds (d : Dialect) : List String :=
  ["CHAR VARYING", "CHARACTER SET", "CHARACTER VARYING", "CLUSTER BY", "CONNECT BY",
    "DISTRIBUTE BY", "DOUBLE PRECISION", "FOREIGN KEY", "GROUP BY", "GROUPING SETS", "ORDER BY",
    "PARTITION BY", "PARTITIONED BY", "PRIMARY KEY", "SIMILAR TO", "SORT BY", "START WITH",
    "USER-DEFINED"] ++
  match d with
  | .tsql => ["CLUSTERED INDEX", "FOR SYSTEM_TIME", "NONCLUSTERED INDEX", "UPDATE STATISTICS"]
  | .snowflake => ["NCHAR VARYING"]
  | .mysql => ["SIGNED INTEGER", "UNSIGNED INTEGER"]
  | .bigquery => ["ANY TYPE", "NOT DETERMINISTIC"]
  | .redshift => ["BINARY VARYING"]
  | _ => []

/-- The characters that are tokens of their own and end a word. -/
def isSign (c : Char) : Bool :=
  "()[]\x7b\x7d&^:,.-=><%/\\+;*~|?@#$\"'".toList.contains c || c.toNat = 0x60

/-- The operators of more than one character. -/
def operators : List String :=
  ["<=>", "->>", "::", "||", "->", "=>", "==", "<>", "<=", ">=", ":=", "&&", "~~"]

namespace Lexer

/-! ### Texts, names and comments -/

/-- The rest of a text after another. -/
def drop? : List Char → List Char → Option (List Char)
  | [], cs => some cs
  | _ :: _, [] => none
  | a :: as, c :: cs => if a = c then drop? as cs else none

/-- The character that a letter after a backslash stands for. -/
def escapeSequence? (c : Char) : Option Char :=
  match c with
  | 'a' => some (Char.ofNat 7)
  | 'b' => some (Char.ofNat 8)
  | 'f' => some (Char.ofNat 12)
  | 'n' => some '\n'
  | 'r' => some '\r'
  | 't' => some '\t'
  | 'v' => some (Char.ofNat 11)
  | '\\' => some '\\'
  | _ => none

/-- How a quoted stretch is read. -/
structure Quotation where
  /-- The last quote. -/
  closing : List Char
  escapes : List Char
  /-- Whether a backslash begins an escape sequence. -/
  hasBackslash : Bool
  /-- Whether a backslash is dropped before all other characters too. -/
  dropsBackslash : Bool
  /-- The characters that quote texts. -/
  quotes : List Char

/-- What two characters of a quoted stretch stand for together, if they belong together. -/
def Quotation.pair? (q : Quotation) (a b : Char) : Option (List Char) :=
  if q.hasBackslash && a = '\\' && (escapeSequence? b).isSome then
    (escapeSequence? b).map ([·])
  else
    let kept := "0bnrtZ%_".toList.contains b
    let other := q.dropsBackslash && a = '\\' && !kept
    if q.escapes.contains a && (q.closing = [b] || q.escapes.contains b || other) &&
        (!q.quotes.contains a || a = b) then
      some (if q.closing = [b] || other && a ≠ b then [b] else [a, b])
    else none

/-- What a quoted stretch says, and the rest after its last quote; `none` if it does not end. -/
def Quotation.body? (q : Quotation) : List Char → Option (List Char × List Char)
  | [] => none
  | [a] => if q.closing = [a] then some ([], []) else none
  | a :: b :: r =>
    match q.pair? a b with
    | some said => (q.body? r).map fun (text, rest) => (said ++ text, rest)
    | none =>
      match drop? q.closing (a :: b :: r) with
      | some rest => some ([], rest)
      | none => (q.body? (b :: r)).map fun (text, rest) => (a :: text, rest)

/-- A comment up to its end, which lies `depth` levels up, and the rest. -/
def commentBody? (nests : Bool) : Nat → List Char → Option (List Char × List Char)
  | _, [] => none
  | depth, '*' :: '/' :: r =>
    if depth = 0 then some ([], r)
    else (commentBody? nests (depth - 1) ('/' :: r)).map fun (text, rest) => ('*' :: text, rest)
  | depth, c :: '/' :: '*' :: r =>
    if nests then
      (commentBody? nests (depth + 1) r).map fun (text, rest) => (c :: '/' :: '*' :: text, rest)
    else (commentBody? nests depth ('/' :: '*' :: r)).map fun (text, rest) => (c :: text, rest)
  | depth, c :: r => (commentBody? nests depth r).map fun (text, rest) => (c :: text, rest)

/-- A comment up to the end of its line, and the rest. -/
def lineBody (cs : List Char) : List Char × List Char :=
  cs.span fun c => c ≠ '\n' && c ≠ '\r'

/-- The text between two marks made of dollar signs, and the rest. -/
def dollarBody? (mark : List Char) : List Char → Option (List Char × List Char)
  | [] => none
  | c :: r =>
    match drop? mark (c :: r) with
    | some rest => some ([], rest)
    | none => (dollarBody? mark r).map fun (text, rest) => (c :: text, rest)

/-- A text between dollar signs, with a tag that may be empty. -/
def dollarQuoted? (cs : List Char) : Option (List Char × List Char) := do
  let cs ← drop? ['$'] cs
  let tag := cs.takeWhile isWordChar
  let cs ← drop? ['$'] (cs.drop tag.length)
  if (tag.head?.map Char.isDigit).getD false then none
  else dollarBody? ('$' :: tag ++ ['$']) cs

/-- How a text is read that begins with the given quotes. -/
def quotation (d : Dialect) (closing : List Char) : Quotation :=
  ⟨closing, d.stringEscapes, d.hasBackslash, d = .mysql, d.stringQuotes⟩

/-- A text between quotes, which a letter may mark, and the rest. -/
def string? (d : Dialect) : List Char → Option (Option (List Char × List Char))
  | c :: r =>
    if d.stringQuotes.contains c then
      match if d = .bigquery then drop? [c, c] r else none with
      | some rest => some ((quotation d [c, c, c]).body? rest)
      | none => some ((quotation d [c]).body? r)
    else if c = '$' && d.hasDollarQuotes then (dollarQuoted? (c :: r)).map some
    else
      match r with
      | q :: rest =>
        if d.stringMarks.contains c.toUpper && d.stringQuotes.contains q then
          some ((quotation d [q]).body? rest)
        else none
      | [] => none
  | [] => none

/-- A name between quotes, and the rest. -/
def name? (d : Dialect) : List Char → Option (Option (List Char × List Char))
  | c :: r =>
    (d.nameQuote? c).map fun last =>
      Quotation.body? ⟨[last], [last], false, false, d.stringQuotes⟩ r
  | [] => none

/-! ### Words and numbers -/

/-- Whether a character may stand within a word. -/
def continuesWord (d : Dialect) (c : Char) : Bool :=
  !isBlank c && (d.wordSigns.contains c || !isSign c)

/-- The rest after the given words of a compound, blanks between them not counted. -/
def compoundRest? : List Char → List Char → Option (List Char)
  | [], cs => some cs
  | _ :: _, [] => none
  | w :: ws, c :: cs =>
    if w = ' ' then if isBlank c then compoundRest? ws (cs.dropWhile isBlank) else none
    else if w = c.toUpper then compoundRest? ws cs else none

/-- The compound at the start of a text, and the rest. A letter or digit must not follow it. -/
def compound? (d : Dialect) (cs : List Char) : Option (String × List Char) :=
  d.compounds.findSome? fun c =>
    match compoundRest? c.toList cs with
    | some rest =>
      if c.toList.contains '-' || (rest.head?.map fun x => isBlank x || isSign x).getD true then
        some (c, rest)
      else none
    | none => none

/-- The part of a number after its first digit: digits, one point, one exponent. The last flag
tells whether a sign may follow. -/
def numberTail (point exponent signed : Bool) : List Char → List Char
  | [] => []
  | c :: r =>
    if c.isDigit then c :: numberTail point exponent false r
    else if c = '.' && !point then c :: numberTail true exponent false r
    else if (c = 'e' || c = 'E') && !exponent then c :: numberTail point true true r
    else if (c = '+' || c = '-') && signed && (r.head?.map Char.isDigit).getD false then
      c :: numberTail point exponent false r
    else []

/-- A number, or a word that begins with a digit, and the rest. -/
def number (d : Dialect) (c : Char) (r : List Char) : TokenKind × List Char × List Char :=
  let hex := (r.head?.map (·.toUpper == 'X')).getD false && c = '0' && d ≠ .oracle
  let body := if hex then r.takeWhile (continuesWord d) else numberTail false false false r
  let rest := r.drop body.length
  let letters := rest.takeWhile fun x => !isBlank x && !isSign x
  if d.allowsLeadingDigit && !letters.isEmpty && !hex then
    (.word, c :: body ++ letters, rest.drop letters.length)
  else (.number, c :: body, rest)

/-- The operator at the start of a text. -/
def operator? (cs : List Char) : Option (String × List Char) :=
  operators.findSome? fun o => (drop? o.toList cs).map (o, ·)

/-! ### The lexer -/

/-- What has been read so far. -/
structure State where
  /-- The tokens, the last one first. -/
  tokens : List Token := []
  /-- The comments that belong to the next token. -/
  waiting : List String := []
  /-- Whether no line break lies after the last token or the comments attached to it. -/
  sameLine : Bool := false
  /-- Whether a gap lies after the last token. -/
  gap : Bool := true
  deriving Repr

/-- Attaches comments to the last token. -/
def attach (comments : List String) : List Token → List Token
  | [] => []
  | t :: ts => { t with comments := t.comments ++ comments } :: ts

/-- Takes up a token. -/
def State.push (s : State) (kind : TokenKind) (text : String) : State :=
  if kind = .sign && text = ";" && !s.tokens.isEmpty then
    ⟨⟨kind, text, [], !s.gap⟩ :: attach s.waiting s.tokens, [], true, false⟩
  else ⟨⟨kind, text, s.waiting, !s.gap⟩ :: s.tokens, [], true, false⟩

/-- Takes up a comment. -/
def State.comment (s : State) (text : String) : State :=
  if s.sameLine then { s with tokens := attach [text] s.tokens, gap := true }
  else { s with waiting := s.waiting ++ [text], gap := true }

/-- Takes up a blank. -/
def State.blank (s : State) (c : Char) : State :=
  { s with sameLine := s.sameLine && c ≠ '\n' && c ≠ '\r', gap := true }

/-- Reads one token, comment or blank; `none` if something does not end. -/
def step (d : Dialect) (s : State) (c : Char) (r : List Char) : Option (State × List Char) :=
  let cs := c :: r
  if isBlank c then some (s.blank c, r)
  else
    match d.lineComments.findSome? fun m => drop? m.toList cs with
    | some rest =>
      let (text, rest) := lineBody rest
      some (s.comment (String.ofList text), rest)
    | none =>
      match drop? ['/', '*'] cs with
      | some rest =>
        (commentBody? d.nestsComments 0 rest).map fun (text, rest) =>
          (s.comment (String.ofList text), rest)
      | none =>
        match string? d cs with
        | some found => found.map fun (text, rest) => (s.push .string (String.ofList text), rest)
        | none =>
          match name? d cs with
          | some found => found.map fun (text, rest) => (s.push .name (String.ofList text), rest)
          | none =>
            if c.isDigit then
              let (kind, text, rest) := number d c r
              some (s.push kind (String.ofList text), rest)
            else
              match compound? d cs with
              | some (text, rest) => some (s.push .word text, rest)
              | none =>
                match operator? cs with
                | some (text, rest) => some (s.push .sign text, rest)
                | none =>
                  if isSign c then some (s.push .sign c.toString, r)
                  else
                    let body := r.takeWhile (continuesWord d)
                    some (s.push .word (String.ofList (c :: body)), r.drop body.length)

/-- Reads all of a text. -/
def run (d : Dialect) : Nat → State → List Char → Option State
  | _, s, [] => some s
  | 0, _, _ :: _ => none
  | n + 1, s, c :: r =>
    match step d s c r with
    | some (s', rest) => run d n s' rest
    | none => none

end Lexer

/-- The tokens of a script; `none` if something in it does not end. -/
def tokensOf (d : Dialect) (text : String) : Option (List Token) :=
  (Lexer.run d text.length {} text.toList).map fun s =>
    (Lexer.attach s.waiting s.tokens).reverse

end ColumnLint.Sql
