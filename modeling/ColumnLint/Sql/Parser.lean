import ColumnLint.Sql.Keyword

/-!
# Parsing tokens

The steps that the readers of statements are made of. A parser either fails, which makes the
whole script unreadable, or gives a result; whether something is there at all is part of the
result.

A token's comments count for the part of the statement that is complete when the token has
been read. So they are free until a part takes them (`take`), with the depth of that part, and
lost if another token is read before. The comments taken are kept in the order of the parts.
-/

namespace ColumnLint.Sql

/-- Where a parser stands. -/
structure Place where
  rest : List Token
  /-- The comments of the token before. -/
  last : List String := []
  /-- Whether no part has taken them. -/
  free : Bool := true
  /-- The comments taken so far, each with the depth of its part. -/
  taken : List (Nat × String) := []
  deriving Repr

/-- Reads part of a statement in a dialect. -/
abbrev Parser := ReaderT Dialect (StateT Place Option)

namespace Parser

/-! ### Tokens -/

/-- The next token. -/
def peek : Parser (Option Token) := do return (← get).rest.head?

/-- The token after the next one. -/
def peekSecond : Parser (Option Token) := do return ((← get).rest.drop 1).head?

/-- Whether the next token is as asked; at the end it is not. -/
def nextIs (test : Token → Bool) : Parser Bool := do return ((← peek).map test).getD false

/-- Whether the token after the next one is as asked. -/
def secondIs (test : Token → Bool) : Parser Bool := do
  return ((← peekSecond).map test).getD false

/-- Whether nothing is left. -/
def atEnd : Parser Bool := do return (← get).rest.isEmpty

/-- Reads a token. -/
def advance : Parser Unit :=
  modify fun p =>
    match p.rest with
    | [] => p
    | t :: r => { p with rest := r, last := t.comments, free := true }

/-- Reads a token if it is as asked. -/
def skipIf (test : Token → Bool) : Parser Bool := do
  if ← nextIs test then
    advance
    return true
  else return false

/-- Goes back to an earlier place. The comments of the token before it are free again. -/
def backTo (p : Place) : Parser Unit := set { p with free := true }

/-- Reads the given sign if it is next. -/
def sign (s : String) : Parser Bool := skipIf (·.isSign s)

/-- Reads the given word if it is next. -/
def word (w : String) : Parser Bool := skipIf (·.isWord w)

/-- Reads one of the given words or names if it is next, and gives it. -/
def oneOf? (words : List String) : Parser (Option String) := do
  match ← peek with
  | some t =>
    if t.kind ≠ .string && words.contains t.upperText then
      advance
      return some t.upperText
    else return none
  | none => return none

/-- Reads the given words or names if all of them come next, and nothing otherwise. -/
def phrase (words : List String) : Parser Bool := do
  let rest := (← get).rest
  if rest.length ≥ words.length && (rest.zip words).all fun (t, w) => t.spells w then
    words.forM fun _ => advance
    return true
  else return false

/-- Reads the given sign, which has to be there. -/
def require (s : String) : Parser Unit := do
  unless ← sign s do failure

/-! ### Comments -/

/-- Takes the free comments for a part of the given depth. -/
def take (depth : Nat) : Parser Unit :=
  modify fun p =>
    if p.free then
      { p with free := false, taken := p.taken ++ p.last.map fun c => (depth, c) }
    else p

/-- Reads a token that is a part of its own. -/
def advanceTaking (depth : Nat) : Parser Unit := do
  advance
  take depth

/-! ### Repetition -/

/-- Repeats a step up to a number of times while it says so. -/
def repeatUpTo : Nat → Parser Bool → Parser Unit
  | 0, _ => pure ()
  | n + 1, step => do if ← step then repeatUpTo n step

/-- Repeats a step while it says so, at most once per token left and once more. -/
def whileSo (step : Parser Bool) : Parser Unit := do
  repeatUpTo ((← get).rest.length + 1) step

/-- Reads parts between commas; a part may be missing. -/
def separated (part : Parser Unit) : Parser Unit := do
  part
  whileSo do
    if ← sign "," then
      part
      return true
    else return false

/-! ### Brackets -/

/-- How much deeper a token leads into brackets. -/
def Bracket.change (t : Token) : Int :=
  if t.kind = .sign then
    if t.text = "(" || t.text = "[" then 1 else if t.text = ")" || t.text = "]" then -1 else 0
  else 0

/-- Reads up to the bracket that closes those which are open, taking all comments. -/
def skipOpen (depth : Nat) : Nat → Int → Parser Unit
  | 0, _ => failure
  | n + 1, level => do
    match ← peek with
    | none => failure
    | some t =>
      advanceTaking depth
      let level := level + Bracket.change t
      if level > 0 then skipOpen depth n level

/-- Reads a group between brackets, whatever it holds. Comments at its first bracket are lost. -/
def group (depth : Nat) : Parser Unit := do
  require "("
  skipOpen depth ((← get).rest.length + 1) 1

/-- Reads all that is left. Brackets have to match. -/
def skipBalanced : Parser Unit := do
  let rest := (← get).rest
  let level := rest.foldl
    (fun (level : Option Int) t =>
      level.bind fun l => if l + Bracket.change t < 0 then none else some (l + Bracket.change t))
    (some 0)
  if level = some 0 then modify fun p => { p with rest := [] } else failure

/-- Reads all that is left, whatever it is. -/
def skipAll : Parser Unit := modify fun p => { p with rest := [] }

end Parser

end ColumnLint.Sql
