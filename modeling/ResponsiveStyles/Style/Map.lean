import ResponsiveStyles.Json.Reader

/-!
# Style maps

A style map gives declarations to keys. It is written as a JSON object, whose order is kept; only the
values that are strings are declarations.
-/
namespace ResponsiveStyles

abbrev StyleMap := OrderedMap Text Json.Value

def StyleMap.read? (json : Text) : Option StyleMap :=
  match Json.read? json with
  | some (.object members) => some members
  | _ => none

end ResponsiveStyles
