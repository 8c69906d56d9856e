import FilterClause.Text.Lowercase
import FilterClause.Value

/-!
Dialects: the six hooks by which a target of conversion writes its leaves, and a name. The order of
the parts, the operator symbols and the comma of a list belong to the renderer.

Neither built-in dialect escapes what stands between its single quotes.
-/

namespace FilterClause

structure Dialect where
  name : String
  /-- A reference to a field; its outer quotes have been taken off. -/
  renderKey : String → String
  renderScalar : Scalar → String
  openGroup : String
  closeGroup : String
  openRange : String
  closeRange : String

def defaultColumn : String := "metadata"

/-- Strings in single quotes, all else in its plain form. -/
def quoteSingle : Scalar → String
  | .string s => "'" ++ s ++ "'"
  | s => s.display

namespace Dialect

/-- Lookup in a column that is cast to binary JSON. -/
def pgVector (column : String := defaultColumn) : Dialect where
  name := "PgVector"
  renderKey key := column ++ "::jsonb->>'" ++ key ++ "'"
  renderScalar := quoteSingle
  openGroup := "("
  closeGroup := ")"
  openRange := "("
  closeRange := ")"

/-- Lookup by an unquoting path into a JSON column. -/
def mySql (column : String := defaultColumn) : Dialect where
  name := "MySQL"
  renderKey key := column ++ "->>'$." ++ key ++ "'"
  renderScalar := quoteSingle
  openGroup := "("
  closeGroup := ")"
  openRange := "("
  closeRange := ")"

end Dialect

/-- The built-in dialects by name. -/
inductive DialectKind
  | pgVector
  | mySql
  deriving DecidableEq, Repr

/-- No built-in dialect has this name, which is given in lower case. -/
structure UnknownDialect where
  name : String
  deriving DecidableEq, Repr

def UnknownDialect.message (e : UnknownDialect) : String :=
  "Unknown dialect: " ++ e.name

namespace DialectKind

instance : Inhabited DialectKind := ⟨pgVector⟩

def build (kind : DialectKind) (column : Option String) : Dialect :=
  match kind with
  | pgVector => .pgVector (column.getD defaultColumn)
  | mySql => .mySql (column.getD defaultColumn)

def ofToken (token : String) : Except UnknownDialect DialectKind :=
  match Text.lowercase token with
  | "pgvector" | "pg" | "postgres" | "postgresql" => .ok pgVector
  | "mysql" | "mariadb" => .ok mySql
  | name => .error ⟨name⟩

/-- The name in settings files, where no other spelling is read. -/
def settingName : DialectKind → String
  | pgVector => "pgvector"
  | mySql => "mysql"

def all : List DialectKind :=
  [pgVector, mySql]

end DialectKind

end FilterClause
