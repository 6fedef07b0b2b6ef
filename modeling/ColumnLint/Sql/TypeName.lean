import ColumnLint.Sql.Dialect

/-!
# Built-in types

The types that a dialect knows by a word of its own. Several words may name one type, as
`NUMERIC` and `DECIMAL` do, and each dialect writes a type in one way (`TypeName.written`).
-/

namespace ColumnLint.Sql

/-- A built-in type, by its standard name. -/
structure TypeName where
  standard : String
  deriving DecidableEq, Repr

namespace TypeName

/-! ### Words -/

/-- The words that all dialects know and that are the standard name themselves. -/
def commonNames : List String := [
  "ARRAY", "BIGDECIMAL", "BIGINT", "BIGNUM", "BINARY", "BIT", "BOOLEAN", "BPCHAR", "CHAR",
  "DATE", "DATEMULTIRANGE", "DATERANGE", "DATETIME", "DECFLOAT", "DECIMAL", "DECIMAL128",
  "DECIMAL256", "DECIMAL32", "DECIMAL64", "DOUBLE", "ENUM", "FLOAT", "GEOGRAPHY", "GEOMETRY",
  "INET", "INT", "INT128", "INT256", "INT4MULTIRANGE", "INT4RANGE", "INT8MULTIRANGE",
  "INT8RANGE", "INTERVAL", "JSON", "JSONB", "LIST", "LONGBLOB", "LONGTEXT", "MAP", "MEDIUMBLOB",
  "MEDIUMINT", "MEDIUMTEXT", "NCHAR", "NULL", "NULLABLE", "NUMMULTIRANGE", "NUMRANGE",
  "NVARCHAR", "OBJECT", "RANGE", "REF", "SMALLINT", "STRUCT", "TEXT", "TIME", "TIMESTAMP",
  "TIMESTAMPLTZ", "TIMESTAMPNTZ", "TIMESTAMPTZ", "TIMETZ", "TIME_NS", "TINYBLOB", "TINYINT",
  "TINYTEXT", "TSMULTIRANGE", "TSRANGE", "TSTZMULTIRANGE", "TSTZRANGE", "UINT", "UINT128",
  "UINT256", "UNION", "UNKNOWN", "USER-DEFINED", "UUID", "VARBINARY", "VARCHAR", "VARIANT",
  "VECTOR"]

/-- The other words that all dialects know, each with the standard name of its type. -/
def commonWords : List (String × String) := [
  ("BIGNUMERIC", "BIGDECIMAL"), ("BLOB", "VARBINARY"), ("BOOL", "BOOLEAN"), ("BYTE", "TINYINT"),
  ("BYTEA", "VARBINARY"), ("CHAR VARYING", "VARCHAR"), ("CHARACTER", "CHAR"),
  ("CHARACTER VARYING", "VARCHAR"), ("CLOB", "TEXT"), ("DEC", "DECIMAL"),
  ("DOUBLE PRECISION", "DOUBLE"), ("FIXED", "DECIMAL"), ("FLOAT4", "FLOAT"), ("FLOAT8", "DOUBLE"),
  ("HUGEINT", "INT128"), ("INT1", "TINYINT"), ("INT16", "SMALLINT"), ("INT2", "SMALLINT"),
  ("INT32", "INT"), ("INT4", "INT"), ("INT64", "BIGINT"), ("INT8", "TINYINT"),
  ("INTEGER", "INT"), ("LONG", "BIGINT"), ("LONGVARCHAR", "TEXT"), ("NUMBER", "DECIMAL"),
  ("NUMERIC", "DECIMAL"), ("NVARCHAR2", "NVARCHAR"), ("REAL", "FLOAT"), ("SHORT", "SMALLINT"),
  ("STR", "TEXT"), ("STRING", "TEXT"), ("TIMESTAMP_LTZ", "TIMESTAMPLTZ"),
  ("TIMESTAMP_NTZ", "TIMESTAMPNTZ"), ("UHUGEINT", "UINT128"), ("VARCHAR2", "VARCHAR")]

/-- Words that `postgres` and `redshift` share, with the standard names. -/
def postgresWords : List (String × String) := [
  ("BIGSERIAL", "BIGSERIAL"), ("CSTRING", "CSTRING"), ("FLOAT", "DOUBLE"), ("HSTORE", "HSTORE"),
  ("INT8", "BIGINT"), ("MONEY", "MONEY"), ("NAME", "NAME"), ("OID", "OID"), ("POINT", "POINT"),
  ("REGCLASS", "REGCLASS"), ("REGCOLLATION", "REGCOLLATION"), ("REGCONFIG", "REGCONFIG"),
  ("REGDICTIONARY", "REGDICTIONARY"), ("REGNAMESPACE", "REGNAMESPACE"), ("REGOPER", "REGOPER"),
  ("REGOPERATOR", "REGOPERATOR"), ("REGPROC", "REGPROC"), ("REGPROCEDURE", "REGPROCEDURE"),
  ("REGROLE", "REGROLE"), ("REGTYPE", "REGTYPE"), ("SERIAL", "SERIAL"),
  ("SMALLSERIAL", "SMALLSERIAL"), ("XML", "XML")]

/-- The words that a dialect knows besides the common ones, or takes for another type. -/
def wordsOf : Dialect → List (String × String)
  | .tsql => [
    ("DATETIME2", "DATETIME2"), ("DATETIMEOFFSET", "TIMESTAMPTZ"), ("IMAGE", "IMAGE"),
    ("MONEY", "MONEY"), ("NTEXT", "TEXT"), ("ROWVERSION", "ROWVERSION"),
    ("SMALLDATETIME", "SMALLDATETIME"), ("SMALLMONEY", "SMALLMONEY"), ("SQL_VARIANT", "VARIANT"),
    ("TIMESTAMP", "ROWVERSION"), ("TINYINT", "UTINYINT"), ("UNIQUEIDENTIFIER", "UUID"),
    ("XML", "XML")]
  | .snowflake => [
    ("BYTEINT", "INT"), ("FILE", "FILE"), ("FLOAT", "DOUBLE"), ("LS", "LS"),
    ("NCHAR VARYING", "VARCHAR"), ("SQL_DOUBLE", "DOUBLE"), ("SQL_VARCHAR", "VARCHAR"),
    ("TIMESTAMP_TZ", "TIMESTAMPTZ")]
  | .postgres => postgresWords
  | .mysql => [
    ("BLOB", "BLOB"), ("SERIAL", "SERIAL"), ("SET", "SET"), ("SIGNED", "BIGINT"),
    ("SIGNED INTEGER", "BIGINT"), ("TIMESTAMP", "TIMESTAMPTZ"), ("UNSIGNED", "UBIGINT"),
    ("UNSIGNED INTEGER", "UBIGINT"), ("YEAR", "YEAR")]
  | .bigquery => [
    ("ANY TYPE", "VARIANT"), ("BYTEINT", "INT"), ("BYTES", "BINARY"), ("FLOAT64", "DOUBLE"),
    ("RECORD", "STRUCT"), ("TIMESTAMP", "TIMESTAMPTZ")]
  | .databricks => [("TIMESTAMP", "TIMESTAMPTZ"), ("VOID", "VOID")]
  | .redshift => [
    ("BINARY VARYING", "VARBINARY"), ("HLLSKETCH", "HLLSKETCH"), ("SUPER", "SUPER"),
    ("VARBYTE", "VARBINARY")] ++ postgresWords
  | .oracle => [("BINARY_DOUBLE", "DOUBLE"), ("BINARY_FLOAT", "FLOAT"), ("BLOB", "BLOB")]
  | .standard => []

/-- The type that a word in upper case names. -/
def ofWord? (d : Dialect) (word : String) : Option TypeName :=
  match (wordsOf d).lookup word with
  | some t => some ⟨t⟩
  | none =>
    if commonNames.contains word then some ⟨word⟩ else (commonWords.lookup word).map TypeName.mk

/-! ### What types take -/

/-- Whether the arguments of a type are types. -/
def holdsTypes (t : TypeName) : Bool :=
  ["ARRAY", "LIST", "MAP", "NULLABLE", "RANGE"].contains t.standard

/-- Whether the arguments of a type are named types. -/
def holdsFields (t : TypeName) : Bool :=
  ["FILE", "OBJECT", "STRUCT", "UNION"].contains t.standard

/-- Whether the arguments of a type are its values. -/
def holdsValues (t : TypeName) : Bool :=
  t.standard = "ENUM" || t.standard = "SET"

/-- Whether a type is known by name only and takes nothing. -/
def isBare (t : TypeName) : Bool :=
  ["CSTRING", "OID", "REGCLASS", "REGCOLLATION", "REGCONFIG", "REGDICTIONARY", "REGNAMESPACE",
    "REGOPER", "REGOPERATOR", "REGPROC", "REGPROCEDURE", "REGROLE", "REGTYPE"].contains t.standard

/-- Whether `WITH TIME ZONE` may follow a type. -/
def takesZone (d : Dialect) (t : TypeName) : Bool :=
  ["TIMESTAMP", "TIMESTAMPTZ", "TIMESTAMPLTZ", "TIMETZ"].contains t.standard ||
    (t.standard = "TIME" && d ≠ .snowflake)

/-- Whether a type is a time of day. -/
def isTimeOfDay (t : TypeName) : Bool :=
  t.standard = "TIME" || t.standard = "TIMETZ"

/-- The unsigned form of a type. -/
def unsigned? (t : TypeName) : Option TypeName :=
  if ["BIGINT", "INT", "MEDIUMINT", "SMALLINT", "TINYINT", "DECIMAL", "DOUBLE"].contains t.standard
  then some ⟨"U" ++ t.standard⟩
  else none

/-! ### Writing -/

/-- How types are written unless a dialect has its own way. -/
def commonSpellings : List (String × String) := [
  ("BLOB", "VARBINARY"), ("LONGBLOB", "BLOB"), ("LONGTEXT", "TEXT"), ("MEDIUMBLOB", "BLOB"),
  ("MEDIUMTEXT", "TEXT"), ("NCHAR", "CHAR"), ("NVARCHAR", "VARCHAR"), ("ROWVERSION", "VARBINARY"),
  ("SMALLDATETIME", "TIMESTAMP"), ("TINYBLOB", "BLOB"), ("TINYTEXT", "TEXT")]

/-- How a dialect writes types in its own way. -/
def spellingsOf : Dialect → List (String × String)
  | .tsql => [
    ("BOOLEAN", "BIT"), ("DECIMAL", "NUMERIC"), ("DOUBLE", "FLOAT"), ("INT", "INTEGER"),
    ("NCHAR", "NCHAR"), ("NVARCHAR", "NVARCHAR"), ("ROWVERSION", "ROWVERSION"),
    ("SMALLDATETIME", "SMALLDATETIME"), ("TEXT", "VARCHAR(MAX)"), ("TIMESTAMP", "DATETIME2"),
    ("TIMESTAMPNTZ", "DATETIME2"), ("TIMESTAMPTZ", "DATETIMEOFFSET"), ("UTINYINT", "TINYINT"),
    ("UUID", "UNIQUEIDENTIFIER"), ("VARIANT", "SQL_VARIANT")]
  | .snowflake => [
    ("BIGDECIMAL", "DOUBLE"), ("JSON", "VARIANT"), ("JSONB", "VARIANT"), ("STRUCT", "OBJECT"),
    ("TEXT", "VARCHAR")]
  | .postgres => [
    ("BINARY", "BYTEA"), ("BLOB", "BYTEA"), ("DATETIME", "TIMESTAMP"),
    ("DOUBLE", "DOUBLE PRECISION"), ("FLOAT", "REAL"), ("ROWVERSION", "BYTEA"),
    ("TIMESTAMPNTZ", "TIMESTAMP"), ("TINYINT", "SMALLINT"), ("VARBINARY", "BYTEA")]
  | .mysql => [
    ("BLOB", "BLOB"), ("LONGBLOB", "LONGBLOB"), ("LONGTEXT", "LONGTEXT"),
    ("MEDIUMBLOB", "MEDIUMBLOB"), ("MEDIUMTEXT", "MEDIUMTEXT"), ("SMALLDATETIME", "DATETIME"),
    ("TIMESTAMPLTZ", "TIMESTAMP"), ("TIMESTAMPNTZ", "DATETIME"), ("TIMESTAMPTZ", "TIMESTAMP"),
    ("TINYBLOB", "TINYBLOB"), ("TINYTEXT", "TINYTEXT")]
  | .bigquery => [
    ("BIGDECIMAL", "BIGNUMERIC"), ("BIGINT", "INT64"), ("BINARY", "BYTES"), ("BLOB", "BYTES"),
    ("BOOLEAN", "BOOL"), ("CHAR", "STRING"), ("DECIMAL", "NUMERIC"), ("DOUBLE", "FLOAT64"),
    ("FLOAT", "FLOAT64"), ("INT", "INT64"), ("NCHAR", "STRING"), ("NVARCHAR", "STRING"),
    ("ROWVERSION", "BYTES"), ("SMALLINT", "INT64"), ("TEXT", "STRING"),
    ("TIMESTAMPLTZ", "TIMESTAMP"), ("TIMESTAMPNTZ", "DATETIME"), ("TIMESTAMPTZ", "TIMESTAMP"),
    ("TINYINT", "INT64"), ("UUID", "STRING"), ("VARBINARY", "BYTES"), ("VARCHAR", "STRING"),
    ("VARIANT", "ANY TYPE")]
  | .databricks => [
    ("BIT", "BOOLEAN"), ("BLOB", "BINARY"), ("CHAR", "CHAR"), ("DATETIME", "TIMESTAMP"),
    ("NULL", "VOID"), ("NVARCHAR", "STRING"), ("ROWVERSION", "BINARY"), ("TEXT", "STRING"),
    ("TIME", "TIMESTAMP"), ("TIMESTAMPLTZ", "TIMESTAMP"), ("TIMESTAMPNTZ", "TIMESTAMP_NTZ"),
    ("TIMESTAMPTZ", "TIMESTAMP"), ("UTINYINT", "SMALLINT"), ("UUID", "STRING"),
    ("VARBINARY", "BINARY")]
  | .redshift => [
    ("BINARY", "VARBYTE"), ("BLOB", "VARBYTE"), ("DATETIME", "TIMESTAMP"),
    ("DOUBLE", "DOUBLE PRECISION"), ("FLOAT", "REAL"), ("INT", "INTEGER"),
    ("ROWVERSION", "VARBYTE"), ("TEXT", "VARCHAR(MAX)"), ("TIMESTAMPNTZ", "TIMESTAMP"),
    ("TIMESTAMPTZ", "TIMESTAMP"), ("TIMETZ", "TIME"), ("TINYINT", "SMALLINT"),
    ("VARBINARY", "VARBYTE")]
  | .oracle => [
    ("BIGINT", "INT"), ("BINARY", "BLOB"), ("BLOB", "BLOB"), ("DECIMAL", "NUMBER"),
    ("DOUBLE", "DOUBLE PRECISION"), ("NCHAR", "NCHAR"), ("NVARCHAR", "NVARCHAR2"),
    ("ROWVERSION", "BLOB"), ("TEXT", "CLOB"), ("TIMESTAMPNTZ", "TIMESTAMP"),
    ("TIMESTAMPTZ", "TIMESTAMP"), ("TIMETZ", "TIME"), ("TINYINT", "SMALLINT"),
    ("VARBINARY", "BLOB"), ("VARCHAR", "VARCHAR2")]
  | .standard => []

/-- The word for a type in a dialect. -/
def spelling (d : Dialect) (t : TypeName) : String :=
  ((spellingsOf d).lookup t.standard).getD
    ((commonSpellings.lookup t.standard).getD t.standard)

/-- Whether a dialect writes the time zone after the word and the size of a type. -/
def zoneFollows (d : Dialect) (t : TypeName) : Bool :=
  (d = .redshift || d = .oracle) && (t.standard = "TIMETZ" || t.standard = "TIMESTAMPTZ")

/-- The signed type of an unsigned one, in the dialect that writes the sign after the type. -/
def signed? (d : Dialect) (t : TypeName) : Option TypeName :=
  if d = .mysql then
    ["BIGINT", "INT", "MEDIUMINT", "SMALLINT", "TINYINT", "DECIMAL", "DOUBLE"].findSome? fun s =>
      if t.standard = "U" ++ s then some ⟨s⟩ else none
  else none

/-- The types of text that need a size, where texts without a bound have a type of their own. -/
def needsSize (d : Dialect) (t : TypeName) : Bool :=
  match d with
  | .mysql => t.standard = "VARCHAR"
  | .databricks => ["CHAR", "NCHAR", "NVARCHAR", "VARCHAR"].contains t.standard
  | _ => false

/-- The types of points in time, whose sizes are not written everywhere. -/
def isTemporal (t : TypeName) : Bool :=
  ["DATE", "DATETIME", "DATETIME2", "SMALLDATETIME", "TIME", "TIMESTAMP", "TIMESTAMPLTZ",
    "TIMESTAMPNTZ", "TIMESTAMPTZ", "TIMETZ"].contains t.standard

/-- The sizes that a dialect writes after a type, and the type that it writes them after. -/
def sized (d : Dialect) (t : TypeName) (sizes : List String) : TypeName × List String :=
  if needsSize d t && (sizes.isEmpty || (d = .databricks && sizes.head? = some "MAX")) then
    (⟨"TEXT"⟩, [])
  else if d = .databricks && t.standard = "TEXT" && !sizes.isEmpty then (⟨"VARCHAR"⟩, sizes)
  else if d = .databricks && isTemporal t then (t, [])
  else if d = .databricks && t.standard = "FLOAT" && !sizes.isEmpty then
    (if (sizes.head?.bind String.toNat?).getD 0 ≤ 32 then t else ⟨"DOUBLE"⟩, [])
  else (t, sizes)

/-- A type with its sizes as a dialect writes it. -/
def written (d : Dialect) (t : TypeName) (sizes : List String) : String :=
  let (t, sizes) := sized d t sizes
  let (t, suffix) :=
    match signed? d t with
    | some s => (s, " UNSIGNED")
    | none => (t, if zoneFollows d t then " WITH TIME ZONE" else "")
  let word :=
    if (d = .postgres || d = .redshift) && !sizes.isEmpty &&
        (t.standard = "FLOAT" || t.standard = "DOUBLE") then "FLOAT"
    else spelling d t
  word ++ (if sizes.isEmpty then "" else "(" ++ ", ".intercalate sizes ++ ")") ++ suffix

end TypeName

end ColumnLint.Sql
