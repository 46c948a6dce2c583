import ResponsiveStyles.OrderedMap
import ResponsiveStyles.Text.Basic

/-!
# JSON values

An object keeps the order in which its names were first written; the last value of a name counts. A
number is whole when it fits in 64 bits with or without a sign, and a float otherwise.
-/
namespace ResponsiveStyles.Json

inductive Number where
  | whole (n : Int)
  | real (x : Float)
deriving Repr

inductive Value where
  | null
  | bool (b : Bool)
  | number (n : Number)
  | string (s : Text)
  | array (items : List Value)
  | object (members : List (Text × Value))

instance : Inhabited Value := ⟨.null⟩

def Value.kind : Value → Text
  | .null => "null".toList
  | .bool _ => "boolean".toList
  | .number _ => "number".toList
  | .string _ => "string".toList
  | .array _ => "array".toList
  | .object _ => "object".toList

end ResponsiveStyles.Json
