import ResponsiveStyles.Yaml.Node

/-!
# Values of YAML nodes

The same scalar can be read as text, as a number or as a truth value; what it is read as decides. Any
scalar is a text. Only plain scalars are numbers, truth values or nothing, and a literal block is one
of these when its tag says so.
-/
namespace ResponsiveStyles.Yaml.Node

def kindTag (kind : Text) : Text :=
  "tag:yaml.org,2002:".toList ++ kind

def isNullWord (t : Text) : Bool :=
  ["null".toList, "Null".toList, "NULL".toList, "~".toList].contains t

def text? : Node → Option Text
  | .scalar _ _ content => some content
  | _ => none

def valueText? (kind : Text) : Node → Option Text
  | .scalar tag style content =>
    if style = .plain || (style = .literal && tag = some (kindTag kind)) then some content else none
  | _ => none

def optional? (read : Node → Option α) (n : Node) : Option (Option α) :=
  let value := (read n).map some
  match n with
  | .scalar none .plain content => if content = [] || isNullWord content then some none else value
  | .scalar (some tag) .plain content =>
    if tag = kindTag "null".toList then
      if isNullWord content then some none else none
    else value
  | _ => value

def bool? (n : Node) : Option Bool :=
  (valueText? "bool".toList n).bind fun t =>
    if ["true".toList, "True".toList, "TRUE".toList].contains t then some true
    else if ["false".toList, "False".toList, "FALSE".toList].contains t then some false
    else none

def digits? (base : Nat) (t : Text) : Option Nat :=
  if t = [] then none
  else t.foldlM (fun n c => (Json.hexDigit? c).bind fun d =>
    if d < base then some (n * base + d) else none) 0

/-- A number without a fraction or a minus sign: in base 16, 8 or 2 behind its mark, or else in base
ten without leading zeros. -/
def natural? (n : Node) : Option Nat :=
  (valueText? "int".toList n).bind fun t =>
    let t := match t with
      | '+' :: r => r
      | t => t
    let marked : Option Nat := match t with
      | '0' :: 'x' :: r => digits? 16 r
      | '0' :: 'o' :: r => digits? 8 r
      | '0' :: 'b' :: r => digits? 2 r
      | _ => none
    match marked with
    | some v => some v
    | none => if t.head? = some '0' && 1 < t.length then none else digits? 10 t

def word? (n : Node) : Option UInt32 :=
  n.natural?.bind fun v => if v < UInt32.size then some v.toUInt32 else none

/-- A float: a decimal within range, or the word for an infinity or for no number after a point. -/
def float? (n : Node) : Option Float :=
  (valueText? "float".toList n).bind fun t =>
    let (plus, u) := match t with
      | '+' :: r => (true, r)
      | t => (false, t)
    if plus && (u.head? = some '+' || u.head? = some '-') then none
    else if [".inf".toList, ".Inf".toList, ".INF".toList].contains u then some (1.0 / 0.0)
    else if ["-.inf".toList, "-.Inf".toList, "-.INF".toList].contains t then some (-1.0 / 0.0)
    else if [".nan".toList, ".NaN".toList, ".NAN".toList].contains t then some (0.0 / 0.0)
    else (Decimal.read? u).filter Float.isFinite

def items? : Node → Option (List Node)
  | .sequence items => some items
  | .scalar _ .plain [] => some []
  | _ => none

def members? : Node → Option (List (Node × Node))
  | .mapping members => some members
  | .scalar _ .plain [] => some []
  | _ => none

end ResponsiveStyles.Yaml.Node
