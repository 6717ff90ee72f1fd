/-!
# Tables

Values by name, in the order in which the names were first written.
-/

namespace Admission

/-- Entries by name; writing a name again keeps its place. -/
abbrev Table (α : Type) := List (String × α)

namespace Table

variable {α : Type}

def at? (entries : Table α) (name : String) : Option α :=
  entries.lookup name

/-- Writes a value under a name, in place of the one which was there. -/
def put : Table α → String → α → Table α
  | [], name, value => [(name, value)]
  | entry :: rest, name, value =>
    if entry.1 = name then (name, value) :: rest else entry :: put rest name value

def remove (entries : Table α) (name : String) : Table α :=
  entries.filter (·.1 ≠ name)

/-- The table of a list in which a later entry replaces an earlier one of the same name. -/
def ofList (entries : List (String × α)) : Table α :=
  entries.foldl (fun table entry => put table entry.1 entry.2) []

end Table
end Admission
