import SchemaCatalog.Sql.Token
import SchemaCatalog.Text.LetterCase

/-!
# The words of expressions

Which unquoted words are keywords, and what else a keyword may be: the name of a column, the name of a
function, the name of a type. A word that is no keyword may be all of them. Two-word phrases are
keywords as well.
-/

namespace SchemaCatalog

open Sql

namespace Vocabulary

/-! ## 1. Lists -/

def typeWords : List String :=
  ["ARRAY", "BIT", "BOOL", "BOOLEAN", "BYTE", "MEDIUMINT", "INT1", "TINYINT", "INT16", "SHORT",
    "SMALLINT", "HUGEINT", "INT128", "UHUGEINT", "INT2", "INTEGER", "INT", "INT4", "INT32", "INT64",
    "INT256", "LONG", "BIGINT", "INT8", "UINT", "UINT128", "UINT256", "DEC", "DECIMAL", "DECIMAL32",
    "DECIMAL64", "DECIMAL128", "DECIMAL256", "DECFLOAT", "BIGDECIMAL", "BIGNUMERIC", "BIGNUM", "LIST",
    "MAP", "NULLABLE", "NUMBER", "NUMERIC", "FIXED", "REAL", "FLOAT", "FLOAT4", "FLOAT8", "DOUBLE",
    "JSON", "JSONB", "CHAR", "CHARACTER", "NCHAR", "VARCHAR", "VARCHAR2", "NVARCHAR", "NVARCHAR2",
    "BPCHAR", "STR", "STRING", "TEXT", "LONGTEXT", "MEDIUMTEXT", "TINYTEXT", "CLOB", "LONGVARCHAR",
    "BINARY", "BLOB", "LONGBLOB", "MEDIUMBLOB", "TINYBLOB", "BYTEA", "VARBINARY", "TIME", "TIMETZ",
    "TIME_NS", "TIMESTAMP", "TIMESTAMPTZ", "TIMESTAMPLTZ", "TIMESTAMP_LTZ", "TIMESTAMPNTZ",
    "TIMESTAMP_NTZ", "DATE", "DATETIME", "INT4RANGE", "INT4MULTIRANGE", "INT8RANGE", "INT8MULTIRANGE",
    "NUMRANGE", "NUMMULTIRANGE", "TSRANGE", "TSMULTIRANGE", "TSTZRANGE", "TSTZMULTIRANGE",
    "DATERANGE", "DATEMULTIRANGE", "ENUM", "GEOGRAPHY", "GEOMETRY", "POINT", "INET", "UUID",
    "UNKNOWN", "NULL", "STRUCT", "VARIANT", "VECTOR", "INTERVAL", "OBJECT", "FILE", "RANGE", "UNION",
    "XML", "MONEY", "NAME", "HSTORE", "SERIAL", "SMALLSERIAL", "BIGSERIAL", "CSTRING", "OID",
    "REGCLASS", "REGCOLLATION", "REGCONFIG", "REGDICTIONARY", "REGNAMESPACE", "REGOPER",
    "REGOPERATOR", "REGPROC", "REGPROCEDURE", "REGROLE", "REGTYPE"]

def typePhrases : List String := ["DOUBLE PRECISION", "CHAR VARYING", "CHARACTER VARYING"]

/-- The types that stand alone: nothing that follows belongs to them. -/
def plainTypes : List String :=
  ["CSTRING", "OID", "REGCLASS", "REGCOLLATION", "REGCONFIG", "REGDICTIONARY", "REGNAMESPACE",
    "REGOPER", "REGOPERATOR", "REGPROC", "REGPROCEDURE", "REGROLE", "REGTYPE"]

/-- The types of values that hold named values. -/
def recordTypes : List String := ["STRUCT", "OBJECT", "FILE", "UNION"]

def nestedTypes : List String := ["ARRAY", "LIST", "MAP", "NULLABLE", "RANGE"] ++ recordTypes

def timeTypes : List String :=
  ["TIME", "TIMETZ", "TIME_NS", "TIMESTAMP", "TIMESTAMPTZ", "TIMESTAMPLTZ", "TIMESTAMP_LTZ",
    "TIMESTAMPNTZ", "TIMESTAMP_NTZ"]

/-- The types of whole numbers that have an unsigned form. -/
def signedTypes : List String :=
  ["MEDIUMINT", "INT1", "BYTE", "TINYINT", "INT16", "SHORT", "SMALLINT", "INT2", "INTEGER", "INT",
    "INT4", "INT32", "INT64", "LONG", "BIGINT", "INT8", "DEC", "DECIMAL", "NUMBER", "NUMERIC", "FIXED",
    "FLOAT", "DOUBLE", "FLOAT8", "DOUBLE PRECISION"]

/-- The keywords that name no column. -/
def reservedWords : List String :=
  ["ALTER", "AND", "AS", "BETWEEN", "CREATE", "CROSS", "DISTINCT", "DROP", "ELSE", "EXCEPT", "FETCH",
    "FOR", "FROM", "GLOB", "GRANT", "HAVING", "ILIKE", "IN", "INNER", "INOUT", "INSERT", "INTERSECT",
    "INTO", "JOIN", "LATERAL", "LIKE", "NOT", "NOTNULL", "ON", "ONLY", "OR", "OUT", "OUTER",
    "QUALIFY", "REGEXP", "RETURNING", "REVOKE", "RLIKE", "ROLLBACK", "SELECT", "STRAIGHT_JOIN",
    "TABLESAMPLE", "THEN", "UNCACHE", "UNION", "USING", "VALUES", "VARIADIC", "WHEN", "WHERE", "WITH",
    "XOR"]

/-- The keywords that name a function, types aside. -/
def callableWords : List String :=
  ["ALL", "ANY", "CALL", "COLLATE", "CURRENT_CATALOG", "CURRENT_DATE", "CURRENT_SCHEMA",
    "CURRENT_TIME", "CURRENT_TIMESTAMP", "CURRENT_USER", "DECLARE", "DO", "EXEC", "EXISTS", "EXPLAIN",
    "FILTER", "FIRST", "FORMAT", "GLOB", "ILIKE", "INDEX", "INSERT", "ISNULL", "LEFT", "LIKE",
    "LOCALTIME", "LOCALTIMESTAMP", "MERGE", "NEXT", "OFFSET", "OPTIMIZE", "PREPARE", "REFRESH",
    "REGEXP", "REINDEX", "REPLACE", "RESET", "RIGHT", "RLIKE", "ROW", "SEQUENCE", "SESSION_USER",
    "SOME", "TABLE", "TRUNCATE", "UNNEST", "VACUUM", "WINDOW", "XOR"]

/-- The keywords that name a column but neither a function nor a type. -/
def nominalWords : List String :=
  ["ANALYZE", "ANTI", "APPLY", "ASC", "ASOF", "AUTOINCREMENT", "AUTO_INCREMENT", "BEGIN", "CACHE",
    "CASE", "COLUMN", "COMMENT", "COMMIT", "CONSTRAINT", "COPY", "CUBE", "DATABASE", "DEFAULT",
    "DELETE", "DESC", "DESCRIBE", "END", "ESCAPE", "EXECUTE", "FALSE", "FULL", "FUNCTION", "IS", "KEEP",
    "KILL", "LIMIT", "LOAD", "LOCK", "NAMESPACE", "NATURAL", "OPERATOR", "ORDINALITY", "OVER",
    "OVERLAPS", "OVERWRITE", "PARTITION", "PERCENT", "PIVOT", "PRAGMA", "PROCEDURE", "RECURSIVE",
    "REFERENCES", "RENAME", "ROLLUP", "ROWS", "SCHEMA", "SEMI", "SESSION", "SET", "SETTINGS", "SHOW",
    "TEMP", "TEMPORARY", "TRIGGER", "TRUE", "TYPE", "UNIQUE", "UNPIVOT", "UPDATE", "USE", "VIEW",
    "VOLATILE"]

def nominalPhrases : List String := "FOREIGN KEY" :: typePhrases

def callablePhrases : List String := "PRIMARY KEY" :: typePhrases

def objectWords : List String :=
  ["COLUMN", "CONSTRAINT", "FOREIGN KEY", "FUNCTION", "INDEX", "PROCEDURE", "TRIGGER", "TYPE",
    "DATABASE", "NAMESPACE", "SCHEMA", "SEQUENCE", "TABLE", "VIEW"]

/-- The words that are no name of a table without `AS`. -/
def joinWords : List String :=
  ["ANTI", "ASOF", "FULL", "LEFT", "LOCK", "NATURAL", "RIGHT", "SEMI", "WINDOW"]

/-! ## 2. Tokens -/

/-- The keyword or other unquoted word that a token is, in capitals. -/
def word? (t : Token) : Option String :=
  match t.kind with
  | .word => some (Text.upper t.text)
  | .phrase => some t.text
  | _ => none

def isKeyword (word : String) : Bool :=
  typeWords.contains word || reservedWords.contains word || callableWords.contains word
    || nominalWords.contains word

/-- The token is an unquoted word that is no keyword. -/
def isPlain (t : Token) : Bool := t.kind == .word && !isKeyword (Text.upper t.text)

def isNominal (t : Token) : Bool :=
  match t.kind with
  | .word => !reservedWords.contains (Text.upper t.text)
  | .phrase => nominalPhrases.contains t.text
  | _ => false

def isType (t : Token) : Bool :=
  match t.kind with
  | .word => typeWords.contains (Text.upper t.text)
  | .phrase => typePhrases.contains t.text
  | _ => false

def isCallable (t : Token) : Bool :=
  match t.kind with
  | .quoted => true
  | .word =>
    let word := Text.upper t.text
    typeWords.contains word || callableWords.contains word || !isKeyword word
  | .phrase => callablePhrases.contains t.text
  | _ => false

def isTableName (t : Token) : Bool :=
  isNominal t && !((word? t).map joinWords.contains).getD false

/-- The token may never stand for a name: a mark of one character, or one of three words. -/
def isReserved (t : Token) : Bool :=
  match t.kind with
  | .symbol => (t.text.length == 1 && t.text != "~") || t.text.startsWith "$"
  | .word => ["NOT", "UNKNOWN", "SELECT"].contains (Text.upper t.text)
  | _ => false

end Vocabulary

end SchemaCatalog
