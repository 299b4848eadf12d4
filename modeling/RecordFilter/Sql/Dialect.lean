import RecordFilter.Text.Quoted

/-!
# Dialects

How the names of tables and columns are quoted. A closing quote inside a name is written
twice.
-/

set_option autoImplicit false

namespace RecordFilter.Sql

/-- The two ways to quote names. -/
inductive Dialect where
  | sqlite
  | sqlServer
  deriving DecidableEq, Repr

namespace Dialect

def name : Dialect → String
  | sqlite => "sqlite"
  | sqlServer => "sqlserver"

def openingQuote : Dialect → Char
  | sqlite => '\x22'
  | sqlServer => '['

def closingQuote : Dialect → Char
  | sqlite => '\x22'
  | sqlServer => ']'

def quote (dialect : Dialect) (name : String) : String :=
  Text.enclose dialect.openingQuote dialect.closingQuote name

def qualify (dialect : Dialect) (table column : String) : String :=
  dialect.quote table ++ "." ++ dialect.quote column

def marker (_ : Dialect) : Char :=
  '@'

end Dialect

end RecordFilter.Sql
