import Phrasebook.Datum
import Phrasebook.Toml.Fault

/-!
# Tables of settings files

A settings file builds one table of tables. Statements name tables by keys, and marks on keys say which
of them may not be opened again: those that were declared, and those whose value was written on one
place as an array or an inline table. Nothing below a key of the second kind may change.
-/

namespace Phrasebook.Toml

/-- The marks on keys. -/
structure Marks where
  /-- The tables that were declared. -/
  declared : List Key := []
  /-- The tables that dotted names have opened; they become declared with the next header. -/
  opened : List Key := []
  /-- The arrays and inline tables. -/
  frozen : List Key := []
deriving DecidableEq, Repr

namespace Marks

/-- Whether a table was declared. -/
def isDeclared (marks : Marks) (key : Key) : Bool := marks.declared.contains key

/-- Whether a key is that of an array or an inline table, or lies below it. -/
def isFrozen (marks : Marks) (key : Key) : Bool := marks.frozen.any (·.isPrefixOf key)

/-- Marks a table as declared. -/
def declare (marks : Marks) (key : Key) : Marks :=
  { marks with declared := key :: marks.declared }

/-- Marks a table as opened. -/
def openKey (marks : Marks) (key : Key) : Marks := { marks with opened := key :: marks.opened }

/-- Marks an array or an inline table. -/
def freeze (marks : Marks) (key : Key) : Marks := { marks with frozen := key :: marks.frozen }

/-- Declares all opened tables. -/
def settle (marks : Marks) : Marks :=
  { marks with declared := marks.opened ++ marks.declared, opened := [] }

/-- Takes the marks from a key and from all below it. -/
def release (marks : Marks) (key : Key) : Marks :=
  { marks with
    declared := marks.declared.filter fun other => !key.isPrefixOf other
    frozen := marks.frozen.filter fun other => !key.isPrefixOf other }

end Marks

/-- Changes the table at a key. Tables that are missing on the way are made, and if that is asked for,
an array of tables stands for its last one. -/
def reach (throughArrays : Bool) (change : Fields → Except Reason Fields) :
    Key → Fields → Except Reason Fields
  | [], table => change table
  | name :: rest, table =>
    match table.get? name with
    | none => return table.put name (.record (← reach throughArrays change rest []))
    | some (.record inner) =>
      return table.put name (.record (← reach throughArrays change rest inner))
    | some (.list items) =>
      match throughArrays, items.getLast? with
      | true, some (.record inner) =>
        return table.put name
          (.list (items.dropLast ++ [.record (← reach throughArrays change rest inner)]))
      | _, _ => .error .overwritten
    | some _ => .error .overwritten

/-- Sets a new field. -/
def insert (reason : Reason) (name : Text) (value : Datum) (table : Fields) :
    Except Reason Fields :=
  if (table.get? name).isSome then .error reason else .ok (table.put name value)

/-- Adds an empty table to the array in a field. -/
def extend (name : Text) (table : Fields) : Except Reason Fields :=
  match table.get? name with
  | none => .ok (table.put name (.list [.record []]))
  | some (.list items) => .ok (table.put name (.list (items ++ [.record []])))
  | some _ => .error .overwritten

end Phrasebook.Toml
