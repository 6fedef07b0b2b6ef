import ColumnLint.Sql.Lexer
import ColumnLint.Sql.TypeName
import ColumnLint.Text.Case

/-!
# Words with a meaning

Which words have a meaning of their own in a dialect, and which of these may still be names.
All other words are plain and name tables, columns and types.
-/

namespace ColumnLint.Sql

open ColumnLint.Text

/-- Words with a meaning in all dialects, besides those that name types. -/
def commonKeywords : List String := [
  "ALL", "ALTER", "ANALYZE", "AND", "ANTI", "ANY", "APPLY", "AS", "ASC", "ASOF", "AUTOINCREMENT",
  "AUTO_INCREMENT", "BEGIN", "BETWEEN", "CACHE", "CALL", "CASE", "COLLATE", "COLUMN", "COMMENT",
  "COMMIT", "CONSTRAINT", "COPY", "CREATE", "CROSS", "CUBE", "CURRENT_CATALOG", "CURRENT_DATE",
  "CURRENT_SCHEMA", "CURRENT_TIME", "CURRENT_TIMESTAMP", "CURRENT_USER", "DATABASE", "DECLARE",
  "DEFAULT", "DELETE", "DESC", "DESCRIBE", "DISTINCT", "DIV", "DROP", "ELSE", "END", "ESCAPE",
  "EXCEPT", "EXECUTE", "EXISTS", "EXPLAIN", "FALSE", "FETCH", "FILE", "FILTER", "FIRST", "FOR",
  "FORMAT", "FROM", "FULL", "FUNCTION", "GLOB", "GRANT", "HAVING", "ILIKE", "IN", "INDEX",
  "INNER", "INSERT", "INTERSECT", "INTO", "IS", "ISNULL", "JOIN", "KEEP", "KILL", "LATERAL",
  "LEFT", "LIKE", "LIMIT", "LOAD", "LOCALTIME", "LOCALTIMESTAMP", "LOCK", "MERGE", "NAMESPACE",
  "NATURAL", "NEXT", "NOT", "NOTNULL", "OFFSET", "ON", "OPERATOR", "OPTIMIZE", "OR", "ORDINALITY",
  "OUT", "OUTER", "OVER", "OVERLAPS", "OVERWRITE", "PARTITION", "PERCENT", "PIVOT", "PRAGMA",
  "PREPARE", "PROCEDURE", "QUALIFY", "RECURSIVE", "REFERENCES", "REGEXP", "RENAME", "REPLACE",
  "RETURNING", "REVOKE", "RIGHT", "RLIKE", "ROLLBACK", "ROLLUP", "ROW", "ROWS", "SCHEMA",
  "SELECT", "SEMI", "SESSION", "SESSION_USER", "SET", "SETTINGS", "SHOW", "SOME",
  "STRAIGHT_JOIN", "TABLE", "TABLESAMPLE", "TEMP", "TEMPORARY", "THEN", "TRIGGER", "TRUE",
  "TRUNCATE", "UNCACHE", "UNIQUE", "UNNEST", "UNPIVOT", "UPDATE", "USE", "USING", "VACUUM",
  "VALUES", "VIEW", "VOLATILE", "WHEN", "WHERE", "WINDOW", "WITH", "XOR"]

/-- Words with a meaning in one dialect. -/
def Dialect.keywords : Dialect → List String
  | .tsql => ["EXEC", "GO", "OPTION", "OUTPUT", "PRINT", "PROC", "SYSTEM_USER", "TOP"]
  | .snowflake => ["MATCH_RECOGNIZE", "MINUS", "SAMPLE", "STAGE", "TAG", "TOP", "WAREHOUSE"]
  | .postgres => ["DO", "EXEC", "ONLY", "REFRESH", "REINDEX", "RESET", "TYPE"]
  | .mysql => ["IGNORE", "KEY", "MEMBER", "PARTITIONS", "SEPARATOR", "START"]
  | .bigquery => ["BEGIN", "ELSEIF", "MODEL"]
  | .databricks => ["MINUS"]
  | .redshift => ["DO", "EXEC", "ONLY", "REFRESH", "REINDEX", "RESET", "TOP", "UNLOAD"]
  | .oracle => ["COLUMNS", "MATCH_RECOGNIZE", "MINUS", "SAMPLE", "START", "TOP"]
  | .standard => []

/-- The words that are no names where a name is only one of several things that may stand. -/
def Dialect.reservedWords (d : Dialect) : List String :=
  ["ALTER", "AND", "AS", "BETWEEN", "CREATE", "CROSS", "DECLARE", "DISTINCT", "DROP", "ELSE",
    "EXCEPT", "FOR", "FROM", "GLOB", "GRANT", "HAVING", "ILIKE", "IN", "INNER", "INSERT",
    "INTERSECT", "INTO", "JOIN", "LATERAL", "LIKE", "NOT", "NOTNULL", "ON", "OR", "OUTER",
    "QUALIFY", "REGEXP", "RETURNING", "REVOKE", "RLIKE", "SELECT", "STRAIGHT_JOIN",
    "TABLESAMPLE", "THEN", "UNION", "USING", "VALUES", "WHEN", "WHERE", "WITH", "XOR"] ++
  (if d = .mysql then ["KEY"] else [])

/-- The words that stand for a value of their own. -/
def valueWords : List String := [
  "CURRENT_CATALOG", "CURRENT_DATE", "CURRENT_TIME", "CURRENT_TIMESTAMP", "CURRENT_USER",
  "FALSE", "LOCALTIME", "LOCALTIMESTAMP", "SESSION_USER", "TRUE"]

/-- What a token says, in upper case. -/
def Token.upperText (t : Token) : String := upper t.text

/-- Whether a token is the given word or name. -/
def Token.spells (t : Token) (word : String) : Bool :=
  t.kind ≠ .string && t.upperText = word

/-- Whether a token is the given word, without quotes. -/
def Token.isWord (t : Token) (word : String) : Bool :=
  t.kind = .word && t.upperText = word

/-- Whether a token is one of the given words, without quotes. -/
def Token.isOneOf (t : Token) (words : List String) : Bool :=
  t.kind = .word && words.contains t.upperText

/-- Whether a token is the given sign. -/
def Token.isSign (t : Token) (sign : String) : Bool :=
  t.kind = .sign && t.text = sign

/-- The built-in type that a word names. -/
def Token.typeName? (d : Dialect) (t : Token) : Option TypeName :=
  if t.kind = .word then TypeName.ofWord? d t.upperText else none

/-- Whether a token is a word without a meaning of its own. -/
def Token.isPlain (d : Dialect) (t : Token) : Bool :=
  let w := t.upperText
  t.kind = .word && !w.toList.contains ' ' && !commonKeywords.contains w &&
    !d.keywords.contains w && (TypeName.ofWord? d w).isNone

/-- Whether a token may be a name where other things may stand too. -/
def Token.mayName (d : Dialect) (t : Token) : Bool :=
  t.kind = .name ||
    (t.kind = .word && !d.reservedWords.contains t.upperText &&
      (!t.text.toList.contains ' ' || (t.typeName? d).isSome))

/-- Whether a token may be a name where nothing else may stand. -/
def Token.mustName (t : Token) : Bool :=
  (t.kind = .word && t.upperText ≠ "SELECT") || t.kind = .name || t.kind = .string ||
    t.kind = .number

end ColumnLint.Sql
