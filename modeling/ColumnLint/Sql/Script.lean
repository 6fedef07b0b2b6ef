import ColumnLint.Sql.Parser.Alteration

/-!
# Scripts

A script is a sequence of statements with semicolons between them. If any of its statements
cannot be read, neither can the script (`statementsOf?`).
-/

namespace ColumnLint.Sql

/-! ### Statements -/

/-- The words that begin a command, of which the rest may be anything. -/
def Dialect.commandWords (d : Dialect) : List String :=
  ["CALL", "EXECUTE", "FETCH", "OPTIMIZE", "PREPARE", "RENAME", "SHOW", "VACUUM"] ++
  match d with
  | .tsql => ["END", "EXEC", "EXPLAIN", "GO", "PRINT"]
  | .mysql => ["REPLACE"]
  | .postgres | .redshift => ["DO", "EXEC", "EXPLAIN", "REFRESH", "REINDEX", "RESET", "UNLOAD"]
  | _ => ["EXPLAIN"]

/-- The words that begin a statement which does not concern the columns of tables. -/
def otherStatementWords : List String := [
  "ANALYZE", "BEGIN", "CACHE", "COMMENT", "COMMIT", "COPY", "DECLARE", "DELETE", "DESC",
  "DESCRIBE", "DROP", "END", "EXPLAIN", "GRANT", "IF", "INSERT", "KILL", "LOAD", "MERGE", "PIVOT",
  "PRAGMA", "REFRESH", "REVOKE", "ROLLBACK", "SELECT", "SET", "SHOW", "TRUNCATE", "UNCACHE",
  "UPDATE", "USE", "VALUES", "WITH"]

namespace Parser

/-- Reads an expression that stands as a statement, with a name or none. -/
def expressionStatement : Parser Unit := do
  let d ← read
  needed (expression ⟨true, true, 0⟩)
  let _ ← word "AS"
  let _ ← skipIf (·.mayName d)

/-- Reads a statement, which has to be all that is left. -/
def statement : Parser Statement := do
  let d ← read
  if ← word "CREATE" then creation
  else if ← word "ALTER" then alteration
  else if ← nextIs (·.isOneOf d.commandWords) then
    skipAll
    return .other
  else if ← nextIs (·.isOneOf otherStatementWords) then
    skipBalanced
    return .other
  else
    expressionStatement
    if ← atEnd then return .other else failure

end Parser

/-! ### Scripts -/

/-- The tokens between semicolons. -/
def statementTokens : List Token → List (List Token)
  | [] => [[]]
  | t :: r =>
    match statementTokens r with
    | [] => [[t]]
    | s :: more => if t.isSign ";" then [] :: s :: more else (t :: s) :: more

/-- The statement that tokens make. -/
def statementOf? (d : Dialect) (tokens : List Token) : Option Statement :=
  ((Parser.statement.run d).run { rest := tokens }).map (·.1)

/-- The statements of a script in order; `none` if one of them cannot be read. -/
def statementsOf? (d : Dialect) (text : String) : Option (List Statement) := do
  let tokens ← tokensOf d text
  ((statementTokens tokens).filter (!·.isEmpty)).mapM (statementOf? d)

end ColumnLint.Sql
