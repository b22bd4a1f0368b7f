/-!
# Records as text

A record is written as its name and its fields in braces, each field with its name. A record that
does not show all of its fields ends in two dots.
-/

namespace SessionPool.Text

/-- The fields of a record, each with its name, separated by commas. -/
def fields (entries : List (String × String)) : String :=
  String.intercalate ", " (entries.map fun entry => entry.1 ++ ": " ++ entry.2)

/-- A record with all its fields. -/
def record (name : String) (entries : List (String × String)) : String :=
  name ++ " \x7b " ++ fields entries ++ " \x7d"

/-- A record with some of its fields. -/
def partialRecord (name : String) (entries : List (String × String)) : String :=
  name ++ " \x7b " ++ fields entries ++ ", .. \x7d"

/-- A value that may be missing. -/
def optional : Option String → String
  | some value => "Some(" ++ value ++ ")"
  | none => "None"

/-- A truth value. -/
def truth : Bool → String
  | true => "true"
  | false => "false"

example : record "Point" [("x", "1"), ("y", "2")] = "Point \x7b x: 1, y: 2 \x7d" := by decide

example : partialRecord "Point" [("x", "1")] = "Point \x7b x: 1, .. \x7d" := by decide

end SessionPool.Text
