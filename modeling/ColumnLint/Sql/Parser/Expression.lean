import ColumnLint.Sql.Parser.Type

/-!
# Parsing expressions

Expressions stand as default values, in conditions and as statements. Nothing of them is kept
but their comments; what counts is where they end. An expression is either arithmetic, which a
comparison or a word such as `NOT` ends, or logical.
-/

namespace ColumnLint.Sql

/-- How an expression is read. -/
structure Reading where
  /-- Whether comparisons and connectives belong to it. -/
  logical : Bool
  /-- Whether what stands between brackets is read as expressions too. -/
  strict : Bool
  /-- The depth of the parts that its comments count for. -/
  depth : Nat

/-- Functions whose arguments are not only expressions. -/
def wordyFunctions : List String := [
  "CAST", "CONVERT", "DECODE", "EXTRACT", "GROUP_CONCAT", "JSON_OBJECT", "JSON_TABLE",
  "LISTAGG", "OVERLAY", "POSITION", "SAFE_CAST", "STRING_AGG", "SUBSTRING", "TRIM", "TRY_CAST",
  "TRY_CONVERT", "XMLELEMENT"]

/-- The signs between the parts of arithmetic expressions. -/
def arithmeticSigns : List String := ["+", "-", "*", "/", "%", "||", "&", "|", "^", "->", "->>"]

/-- The signs between the parts of logical expressions. -/
def logicalSigns : List String :=
  ["=", "==", "<>", "<", ">", "<=", ">=", "<=>", ":=", "=>", "&&", "~", "~~"]

/-- The words between a value and what it is matched with. -/
def matchWords : List String := ["GLOB", "ILIKE", "LIKE", "REGEXP", "RLIKE", "SIMILAR TO"]

namespace Parser

/-- Reads a part that has to be there. -/
def needed (part : Parser Bool) : Parser Unit := do
  unless ← part do failure

/-- Reads a word between two parts of an expression, or a sign. -/
def operator (r : Reading) : Parser Bool := do
  let some t ← peek | return false
  if t.kind = .sign then
    if arithmeticSigns.contains t.text || (r.logical && logicalSigns.contains t.text) then
      advanceTaking r.depth
      if (t.text = "<" || t.text = ">") then
        let _ ← sign t.text
      return true
    else return false
  else if t.isOneOf ["COLLATE", "DIV"] then
    advanceTaking r.depth
    return true
  else if !r.logical then return false
  else if t.isOneOf ("AND" :: "OR" :: "XOR" :: "ESCAPE" :: matchWords) then
    advanceTaking r.depth
    return true
  else if t.isWord "NOT" && (← secondIs (·.isOneOf matchWords)) then
    advance
    advanceTaking r.depth
    return true
  else return false

mutual

/-- Reads an expression, at most so many parts deep. -/
def expressionUpTo (r : Reading) : Nat → Parser Bool
  | 0 => failure
  | n + 1 => do
    if ← operandUpTo r n then
      whileSo do
        if ← operator r then
          needed (operandUpTo r n)
          return true
        else testUpTo r n
      return true
    else return false

/-- Reads a test behind a value: for a null, a truth value, a range or a list. -/
def testUpTo (r : Reading) : Nat → Parser Bool
  | 0 => failure
  | n + 1 => do
    if !r.logical then return false
    else if ← word "IS" then
      let _ ← phrase ["NOT"]
      if ← phrase ["DISTINCT", "FROM"] then needed (operandUpTo r n)
      else
        match ← oneOf? ["NULL", "TRUE", "FALSE", "UNKNOWN", "JSON"] with
        | some _ => take r.depth
        | none => failure
      return true
    else
      let negated ← nextIs (·.isWord "NOT")
      let next := if negated then secondIs else nextIs
      if ← next (·.isWord "BETWEEN") then
        if negated then advance
        advance
        needed (operandUpTo { r with logical := false } n)
        unless ← word "AND" do failure
        needed (operandUpTo { r with logical := false } n)
        return true
      else if ← next (·.isWord "IN") then
        if negated then advance
        advanceTaking r.depth
        if ← nextIs (·.isSign "(") then groupUpTo r n else needed (operandUpTo r n)
        return true
      else return false

/-- Reads what stands between two operators. -/
def operandUpTo (r : Reading) : Nat → Parser Bool
  | 0 => failure
  | n + 1 => do
    let some t ← peek | return false
    let found ←
      match t.kind with
      | .sign => signedUpTo r t n
      | .word | .name => wordedUpTo r t n
      | .number => advanceTaking r.depth *> pure true
      | .string => texts r.depth *> pure true
    if found then whileSo (postfixUpTo r n)
    return found

/-- Reads an operand that begins with a sign. -/
def signedUpTo (r : Reading) (t : Token) : Nat → Parser Bool
  | 0 => failure
  | n + 1 => do
    if ["-", "+", "~"].contains t.text then
      advance
      needed (operandUpTo r n)
      return true
    else if t.text = "(" then
      groupUpTo r n
      return true
    else if ["*", "?"].contains t.text then
      advanceTaking r.depth
      return true
    else if ["@", ":"].contains t.text then
      advance
      advanceTaking r.depth
      return true
    else return false

/-- Reads an operand that begins with a word or a name. -/
def wordedUpTo (r : Reading) (t : Token) : Nat → Parser Bool
  | 0 => failure
  | n + 1 => do
    let d ← read
    let textNext ← secondIs (·.kind = .string)
    let amountNext ← secondIs fun u => u.kind = .string || u.kind = .number
    if t.isWord "NOT" then
      advance
      needed (expressionUpTo { r with logical := true } n)
      return true
    else if t.isWord "CASE" then
      caseUpTo r n
      return true
    else if t.isWord "INTERVAL" && amountNext then
      advance
      advanceTaking r.depth
      if ← nextIs fun u => u.kind = .word && intervalUnits.contains u.upperText then
        advanceTaking r.depth
      return true
    else if (t.typeName? d).isSome && textNext then
      advance
      advanceTaking r.depth
      return true
    else if t.mayName d || t.isOneOf ["FILTER", "LEFT", "RIGHT"] then
      advanceTaking r.depth
      if ← nextIs (·.isSign "(") then callUpTo r t.upperText n
      return true
    else return false

/-- Reads what may follow a value: a part of it, a type, an index. -/
def postfixUpTo (r : Reading) : Nat → Parser Bool
  | 0 => failure
  | n + 1 => do
    if ← sign "." then
      match ← peek with
      | some t =>
        if t.mustName || t.isSign "*" then
          advanceTaking r.depth
          if ← nextIs (·.isSign "(") then callUpTo r t.upperText n
          return true
        else failure
      | none => failure
    else if ← sign "::" then
      match ← columnType? false with
      | some _ =>
        take r.depth
        return true
      | none => failure
    else if ← nextIs (·.isSign "[") then
      advance
      skipOpen r.depth ((← get).rest.length + 1) 1
      return true
    else if ← phrase ["AT", "TIME", "ZONE"] then
      needed (operandUpTo r n)
      return true
    else if (← nextIs (·.isOneOf ["OVER", "FILTER"])) && (← secondIs (·.isSign "(")) then
      advance
      group r.depth
      return true
    else return false

/-- Reads the arguments of a function. -/
def callUpTo (r : Reading) (name : String) : Nat → Parser Unit
  | 0 => failure
  | n + 1 => do
    if !r.strict || wordyFunctions.contains name then
      group r.depth
      take r.depth
    else
      require "("
      let _ ← oneOf? ["ALL", "DISTINCT"]
      if ← nextIs (·.isOneOf ["SELECT", "WITH"]) then
        skipOpen r.depth ((← get).rest.length + 1) 1
      else
        separated do
          let _ ← expressionUpTo { r with logical := true } n
        if ← nextIs (·.isWord "ORDER BY") then skipOpen r.depth ((← get).rest.length + 1) 1
        else
          require ")"
          take r.depth

/-- Reads expressions between brackets, each with a name or none. -/
def groupUpTo (r : Reading) : Nat → Parser Unit
  | 0 => failure
  | n + 1 => do
    let d ← read
    if !r.strict then
      advanceTaking r.depth
      skipOpen (r.depth + 1) ((← get).rest.length + 1) 1
    else
      require "("
      take r.depth
      if ← nextIs (·.isOneOf ["SELECT", "WITH"]) then
        skipOpen r.depth ((← get).rest.length + 1) 1
      else
        separated do
          if ← expressionUpTo { r with logical := true } n then
            if ← word "AS" then advance
            else if ← nextIs (·.mayName d) then advance
        require ")"
        take r.depth

/-- Reads a choice between values. -/
def caseUpTo (r : Reading) : Nat → Parser Unit
  | 0 => failure
  | n + 1 => do
    let all := { r with logical := true }
    advance
    let _ ← expressionUpTo all n
    whileSo do
      if ← word "WHEN" then
        needed (expressionUpTo all n)
        unless ← word "THEN" do failure
        needed (expressionUpTo all n)
        return true
      else return false
    if ← word "ELSE" then needed (expressionUpTo all n)
    unless ← word "END" do failure
    take r.depth

end

/-- Reads an expression, if there is one. -/
def expression (r : Reading) : Parser Bool := do
  expressionUpTo r (4 * (← get).rest.length + 8)

/-- Reads an arithmetic expression, if there is one. -/
def arithmetic (depth : Nat) : Parser Bool := expression ⟨false, false, depth⟩

/-- Reads a logical expression, if there is one. -/
def logical (depth : Nat) : Parser Bool := expression ⟨true, false, depth⟩

end Parser

end ColumnLint.Sql
