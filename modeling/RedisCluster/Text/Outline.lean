/-! Values outlined as text: records with named fields, tuples, lists and options. -/

namespace RedisCluster.Outline

/-- A record with its fields in order. -/
def record (name : String) (fields : List (String × String)) : String :=
  name ++ " \x7b " ++ ", ".intercalate (fields.map fun field => field.1 ++ ": " ++ field.2) ++ " \x7d"

/-- A constructor applied to one value. -/
def tagged (name value : String) : String :=
  name ++ "(" ++ value ++ ")"

/-- A list in brackets. -/
def list (items : List String) : String :=
  "[" ++ ", ".intercalate items ++ "]"

/-- A value that may be missing. -/
def option : Option String → String
  | none => "None"
  | some value => tagged "Some" value

/-- A truth value. -/
def bool (value : Bool) : String :=
  if value then "true" else "false"

end RedisCluster.Outline
