import TableQuery.Text.Blank
import TableQuery.Value.Basic

/-!
# Settings

Settings come from named variables of an environment. A list is written with commas, blanks around
its items do not count and empty items are dropped. A path that begins with `~` begins in the home
directory of the user or of a named account.
-/
namespace TableQuery

abbrev Environment := List (String × String)

/-- Settings of a planner; without default field there is no default order. -/
structure PlannerSettings where
  globalAttributes : List String
  defaultSortField : Option String
  deriving DecidableEq

structure TableLocation where
  path : String
  table : String
  deriving DecidableEq

namespace Settings

def attributesVariable : String := "UIFILTER_GLOBAL_ATTRIBUTES"
def sortVariable : String := "UIFILTER_DEFAULT_SORT_FIELD"
def pathVariable : String := "UIFILTER_DB_PATH"
def tableVariable : String := "UIFILTER_TABLE"
def homeVariable : String := "HOME"

def defaultPath : String := "./uifilter.db"
def defaultTable : String := "records"

def items (text : List Char) : List (List Char) :=
  ((Text.splitAt ',' text).map Text.strip).filter fun item => !item.isEmpty

def givenText (text : String) : Option String :=
  match Text.strip text.toList with
  | [] => none
  | chars => some (String.ofList chars)

def planner (env : Environment) : PlannerSettings :=
  { globalAttributes :=
      (items ((env.lookup attributesVariable).getD "").toList).map String.ofList
    defaultSortField := (env.lookup sortVariable).bind givenText }

def homeRoot (home : List Char) : List Char :=
  (home.reverse.dropWhile (· = '/')).reverse

/-- A path with `~` in front replaced by the home directory, and with `~name` in front by that of
the account of this name; another name behind the `~` leaves the path as it is. -/
def expandHome (home : Option String) (accounts : List (String × String)) (path : List Char) :
    List Char :=
  match path with
  | '~' :: rest =>
    let name := rest.takeWhile (· ≠ '/')
    match if name = [] then home else accounts.lookup (String.ofList name) with
    | none => path
    | some h =>
      match homeRoot h.toList ++ rest.dropWhile (· ≠ '/') with
      | [] => ['/']
      | expanded => expanded
  | path => path

def location (env : Environment) (accounts : List (String × String)) : TableLocation :=
  { path := String.ofList
      (expandHome (env.lookup homeVariable) accounts
        ((env.lookup pathVariable).getD defaultPath).toList)
    table := (env.lookup tableVariable).getD defaultTable }

def plannerEntries (s : PlannerSettings) : Value :=
  .map ((.text "global_attributes", .list (s.globalAttributes.map .text)) ::
    (match s.defaultSortField with
     | none => []
     | some field => [(.text "default_sort_field", .text field)]))

def storeEntries (path table : Value) : Value :=
  .map [(.text "db_path", path), (.text "table", table)]

def locationEntries (l : TableLocation) : Value := storeEntries (.text l.path) (.text l.table)

end Settings
end TableQuery
