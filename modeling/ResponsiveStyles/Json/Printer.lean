import ResponsiveStyles.Decimal.Layout
import ResponsiveStyles.Json.Value

/-!
# Writing JSON texts

The compact form has no blanks; the indented form puts each item on a line of its own, two spaces
further in. In strings only quotes, backslashes and the controls below the space are escaped.
-/
namespace ResponsiveStyles.Json

def escape (c : Char) : Text :=
  match c with
  | '"' => ['\\', '"']
  | '\\' => ['\\', '\\']
  | '\x08' => ['\\', 'b']
  | '\x0c' => ['\\', 'f']
  | '\n' => ['\\', 'n']
  | '\r' => ['\\', 'r']
  | '\t' => ['\\', 't']
  | c =>
    if c.toNat < 0x20 then
      ['\\', 'u', '0', '0', Nat.digitChar (c.toNat / 16), Nat.digitChar (c.toNat % 16)]
    else [c]

def quote (s : Text) : Text :=
  '"' :: (s.flatMap escape ++ ['"'])

def Number.write : Number → Text
  | .whole n => Text.ofInt n
  | .real x => Decimal.Layout.json.write x

/-- A value that is neither array nor object; the empty text for these. -/
def Value.scalar : Value → Text
  | .null => "null".toList
  | .bool true => "true".toList
  | .bool false => "false".toList
  | .number n => n.write
  | .string s => quote s
  | .array _ => []
  | .object _ => []

mutual

def Value.compact : Value → Text
  | .array items => '[' :: ([','].intercalate (compactItems items) ++ [']'])
  | .object members => '\x7b' :: ([','].intercalate (compactMembers members) ++ ['\x7d'])
  | .null => Value.scalar .null
  | .bool b => Value.scalar (.bool b)
  | .number n => Value.scalar (.number n)
  | .string s => Value.scalar (.string s)

def compactItems : List Value → List Text
  | [] => []
  | v :: r => v.compact :: compactItems r

def compactMembers : List (Text × Value) → List Text
  | [] => []
  | m :: r => compactMember m :: compactMembers r

def compactMember : Text × Value → Text
  | (name, v) => quote name ++ ':' :: v.compact

end

def lineBreak (depth : Nat) : Text :=
  '\n' :: List.replicate (2 * depth) ' '

def block (opening closing : Char) (depth : Nat) (items : List Text) : Text :=
  if items.isEmpty then [opening, closing]
  else
    opening :: (lineBreak (depth + 1) ++
      (',' :: lineBreak (depth + 1)).intercalate items ++ lineBreak depth ++ [closing])

mutual

def Value.indented (depth : Nat) : Value → Text
  | .array items => block '[' ']' depth (indentedItems (depth + 1) items)
  | .object members => block '\x7b' '\x7d' depth (indentedMembers (depth + 1) members)
  | .null => Value.scalar .null
  | .bool b => Value.scalar (.bool b)
  | .number n => Value.scalar (.number n)
  | .string s => Value.scalar (.string s)

def indentedItems (depth : Nat) : List Value → List Text
  | [] => []
  | v :: r => v.indented depth :: indentedItems depth r

def indentedMembers (depth : Nat) : List (Text × Value) → List Text
  | [] => []
  | m :: r => indentedMember depth m :: indentedMembers depth r

def indentedMember (depth : Nat) : Text × Value → Text
  | (name, v) => quote name ++ ':' :: ' ' :: v.indented depth

end

end ResponsiveStyles.Json
