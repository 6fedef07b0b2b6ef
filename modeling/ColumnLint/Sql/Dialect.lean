/-!
# SQL dialects

The dialects whose table definitions can be read. Besides the eight that a linter can be
set to there is a general one, which stands in for all other dialects that are known by name.
-/

namespace ColumnLint.Sql

/-- A dialect of SQL. -/
inductive Dialect where
  | tsql
  | snowflake
  | postgres
  | mysql
  | bigquery
  | databricks
  | redshift
  | oracle
  /-- The general dialect. -/
  | standard
  deriving DecidableEq, Repr

namespace Dialect

/-- The dialects that a linter can be set to. -/
def supported : List Dialect :=
  [.tsql, .snowflake, .postgres, .mysql, .bigquery, .databricks, .redshift, .oracle]

/-- The name of a dialect; the general one has none. -/
def name : Dialect → String
  | .tsql => "tsql"
  | .snowflake => "snowflake"
  | .postgres => "postgres"
  | .mysql => "mysql"
  | .bigquery => "bigquery"
  | .databricks => "databricks"
  | .redshift => "redshift"
  | .oracle => "oracle"
  | .standard => ""

/-- Further names that are known; their scripts are read in the general dialect. -/
def furtherNames : List String := [
  "athena", "clickhouse", "doris", "dremio", "drill", "druid", "duckdb", "dune", "exasol", "fabric",
  "hive", "materialize", "presto", "prql", "risingwave", "singlestore", "solr", "spark", "spark2",
  "sqlite", "starrocks", "tableau", "teradata", "trino"]

/-- The dialect of a name, if the name is known. -/
def ofName? (word : String) : Option Dialect :=
  match (standard :: supported).find? (·.name = word) with
  | some d => some d
  | none => if furtherNames.contains word then some .standard else none

end Dialect

end ColumnLint.Sql
