/-!
# Databases

The five targets. Everything that depends on the target is a function on `Database`, split over the
modules below `Dialect` by what it decides.
-/

namespace Crosstab

inductive Database where
  | sqlServer
  | mySql
  | postgres
  | oracle
  | sqlite
  deriving Repr, DecidableEq

namespace Database

def all : List Database := [sqlServer, mySql, postgres, oracle, sqlite]

/-- The short name, as it is stored and given on a command line. -/
def word : Database → String
  | sqlServer => "sqlserver"
  | mySql => "mysql"
  | postgres => "postgres"
  | oracle => "oracle"
  | sqlite => "sqlite"

/-- The product's name, as it stands in messages. -/
def label : Database → String
  | sqlServer => "Microsoft SQL Server"
  | mySql => "MySQL"
  | postgres => "PostgreSQL"
  | oracle => "Oracle"
  | sqlite => "SQLite"

/-- The short names and synonyms by which a target can be asked for. -/
def synonyms : List (String × Database) := [
  ("sqlserver", sqlServer), ("mssql", sqlServer), ("microsoftsqlserver", sqlServer),
  ("mysql", mySql), ("mariadb", mySql),
  ("postgres", postgres), ("postgresql", postgres), ("pg", postgres),
  ("oracle", oracle), ("sqlite", sqlite)]

end Database

end Crosstab
