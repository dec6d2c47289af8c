import TextTemplate.Value.Text

/-!
# Objects

Two kinds of objects for the data of a render: points of the plane, and records with a text and
attributes of their own.
-/

namespace TextTemplate.Value

/-- A point, with its coordinates as attributes. -/
def point (id : Identity) (x y : Int64) : Value :=
  let x' := String.ofList (Number.integerText x.toInt)
  let y' := String.ofList (Number.integerText y.toInt)
  let display := "(" ++ x' ++ ", " ++ y' ++ ")"
  let debug := "Point \x7b x: " ++ x' ++ ", y: " ++ y' ++ " \x7d"
  .object id display debug true [("x", .integer x), ("y", .integer y)]

def record (id : Identity) (display : String) (truth : Bool) (attributes : NameMap Value) : Value :=
  let debug :=
    "Record \x7b display: " ++ String.ofList (Text.quote display.toList) ++
      ", truthy: " ++ String.ofList (boolText truth) ++
      ", attrs: " ++ debugEntries attributes ++ " \x7d"
  .object id display debug truth attributes

end TextTemplate.Value
