import PhaseScript.Machine.Attributes
/-
The table of exports from outside: entries are read, written and deleted as attributes or as items, and both ways see
the same entries.
-/
set_option autoImplicit false

namespace PhaseScript.Machine.Run

/-- An empty table. -/
def newExports : Run Value := alloc (.dict #[] true)

/-- The mark by which the table may be written by scripts; it is read as an attribute of the table. -/
def writableMark : Text := "_guarded_writes"

/-- Reads an attribute of the table: what every table has, else the entry of the name. -/
def exportsAttribute (table : Value) (name : Text) : Run Value := do
  if name == writableMark then return .bool true
  match ← attribute? table name with
  | some v => return v
  | none => raise .attributeError name

end PhaseScript.Machine.Run
