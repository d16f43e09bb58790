import EntityService.Text.CodePoint

/-!
# Statements

The database statements that the generated service runs.  Values are never part of a statement; they
are bound to parameters, which are written `$1`, `$2`, ….

## What is here

* `Statement` — the statements, as data, with `Statement.parameters`.
* `Statement.text` — a statement as it is sent to the database.
-/

set_option autoImplicit false

namespace EntityService.Sql

/-- A database statement. -/
inductive Statement
  /-- Makes a table with columns of given names and types, unless it is there. -/
  | createTable (table : Text) (columns : List (Text × String))
  /-- Gives all rows of a table: the listed columns, or all of them if none is listed. -/
  | select (table : Text) (columns : List Text)
  /-- Adds a row with parameters as the values of columns. -/
  | insert (table : Text) (columns : List (Text × Int))
  /-- Sets columns to parameters in the row whose key column equals a parameter. -/
  | update (table : Text) (columns : List (Text × Int)) (key : Text × Int)
  /-- Removes the row whose key column equals a parameter. -/
  | delete (table : Text) (key : Text × Int)
deriving DecidableEq, Repr

/-- A parameter as it is written in a statement. -/
def placeholder (parameter : Int) : String := "$" ++ toString parameter

namespace Statement

/-- The parameters of a statement, from left to right. -/
def parameters : Statement → List Int
  | createTable _ _ | select _ _ => []
  | insert _ columns => columns.map (·.2)
  | update _ columns key => columns.map (·.2) ++ [key.2]
  | delete _ key => [key.2]

/-- A column and the parameter it is set to or compared with. -/
def equation (column : Text × Int) : Text := column.1 ++ " = " ++ placeholder column.2

/-- A list of items with commas between them. -/
def commaList (items : List Text) : Text := Text.join ", " items

/-- The columns that a selection gives.  A list that leaves no text is written as an asterisk. -/
def selected (columns : List Text) : Text :=
  if commaList columns = [] then "*" else commaList columns

/-- A statement as it is sent to the database. -/
def text : Statement → Text
  | createTable table columns =>
    "CREATE TABLE IF NOT EXISTS " ++ table ++ " ("
      ++ commaList (columns.map fun c => c.1 ++ " " ++ c.2) ++ ");"
  | select table columns =>
    "SELECT " ++ selected columns ++ " FROM " ++ table
  | insert table columns =>
    if columns = [] then "INSERT INTO " ++ table ++ " DEFAULT VALUES"
    else
      "INSERT INTO " ++ table ++ " (" ++ commaList (columns.map (·.1)) ++ ") VALUES ("
        ++ commaList (columns.map fun c => (placeholder c.2 : Text)) ++ ")"
  | update table columns key =>
    "UPDATE " ++ table ++ " SET " ++ commaList (columns.map equation) ++ " WHERE " ++ equation key
  | delete table key => "DELETE FROM " ++ table ++ " WHERE " ++ equation key

end Statement

end EntityService.Sql
