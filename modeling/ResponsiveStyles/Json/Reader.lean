import ResponsiveStyles.Json.Number

/-!
# Reading JSON texts

The strict grammar: no comments, no trailing commas, no bare control characters in strings, and no
half of a surrogate pair without the other. Arrays and objects may be nested 127 deep.
-/
namespace ResponsiveStyles.Json

def isBlank (c : Char) : Bool :=
  c = ' ' || c = '\n' || c = '\t' || c = '\r'

def skipBlanks (t : Text) : Text :=
  t.dropWhile isBlank

def hexDigit? (c : Char) : Option Nat :=
  if '0' ≤ c ∧ c ≤ '9' then some (c.toNat - '0'.toNat)
  else if 'a' ≤ c ∧ c ≤ 'f' then some (c.toNat - 'a'.toNat + 10)
  else if 'A' ≤ c ∧ c ≤ 'F' then some (c.toNat - 'A'.toNat + 10)
  else none

def hexValue? (digits : Text) : Option Nat :=
  digits.foldlM (fun n c => (hexDigit? c).map (n * 16 + ·)) 0

def readUnit? : Text → Option (Nat × Text)
  | a :: b :: c :: d :: r => (hexValue? [a, b, c, d]).map (·, r)
  | _ => none

/-- Reads the rest of an escape that names a UTF-16 unit; the upper half of a pair takes the lower
half with it. -/
def readUnitEscape? (t : Text) : Option (Char × Text) :=
  match readUnit? t with
  | none => none
  | some (u, r) =>
    if 0xDC00 ≤ u ∧ u ≤ 0xDFFF then none
    else if 0xD800 ≤ u ∧ u ≤ 0xDBFF then
      match r with
      | '\\' :: 'u' :: r =>
        match readUnit? r with
        | some (v, r) =>
          if 0xDC00 ≤ v ∧ v ≤ 0xDFFF then
            some (Char.ofNat (0x10000 + (u - 0xD800) * 0x400 + (v - 0xDC00)), r)
          else none
        | none => none
      | _ => none
    else some (Char.ofNat u, r)

def readChar? : Text → Option (Char × Text)
  | [] => none
  | '\\' :: 'u' :: r => readUnitEscape? r
  | '\\' :: c :: r =>
    match c with
    | '"' => some ('"', r)
    | '\\' => some ('\\', r)
    | '/' => some ('/', r)
    | 'b' => some ('\x08', r)
    | 'f' => some ('\x0c', r)
    | 'n' => some ('\n', r)
    | 'r' => some ('\r', r)
    | 't' => some ('\t', r)
    | _ => none
  | c :: r => if c = '\\' || c.toNat < 0x20 then none else some (c, r)

def readString? : Nat → Text → Option (Text × Text)
  | _, '"' :: r => some ([], r)
  | 0, _ => none
  | fuel + 1, t =>
    match readChar? t with
    | none => none
    | some (c, r) => (readString? fuel r).map fun (s, r) => (c :: s, r)

def readItems? (close : Char) (item : Text → Option (α × Text)) :
    Nat → Text → Option (List α × Text)
  | 0, _ => none
  | fuel + 1, t =>
    match item (skipBlanks t) with
    | none => none
    | some (a, r) =>
      match skipBlanks r with
      | [] => none
      | c :: r =>
        if c = close then some ([a], r)
        else if c = ',' then
          (readItems? close item fuel r).map fun (items, r) => (a :: items, r)
        else none

def readList? (close : Char) (item : Text → Option (α × Text)) (t : Text) :
    Option (List α × Text) :=
  match skipBlanks t with
  | [] => none
  | c :: r => if c = close then some ([], r) else readItems? close item t.length t

def readColon? (value : Text → Option (Value × Text)) : Text → Option (Value × Text)
  | ':' :: r => value (skipBlanks r)
  | _ => none

def readMember? (value : Text → Option (Value × Text)) : Text → Option ((Text × Value) × Text)
  | '"' :: r =>
    (readString? r.length r).bind fun (name, r) =>
      (readColon? value (skipBlanks r)).map fun (v, r) => ((name, v), r)
  | _ => none

def readScalar? (t : Text) : Option (Value × Text) :=
  match t with
  | '"' :: r => (readString? r.length r).map fun (s, r) => (.string s, r)
  | 'n' :: 'u' :: 'l' :: 'l' :: r => some (.null, r)
  | 't' :: 'r' :: 'u' :: 'e' :: r => some (.bool true, r)
  | 'f' :: 'a' :: 'l' :: 's' :: 'e' :: r => some (.bool false, r)
  | t => (readNumber? t).map fun (n, r) => (.number n, r)

/-- Reads a value that begins at once and is nested at most `depth` deep. -/
def readValue? : Nat → Text → Option (Value × Text)
  | 0, t => readScalar? t
  | depth + 1, t =>
    match t with
    | '[' :: r => (readList? ']' (readValue? depth) r).map fun (items, r) => (.array items, r)
    | '\x7b' :: r =>
      (readList? '\x7d' (readMember? (readValue? depth)) r).map fun (members, r) =>
        (.object (OrderedMap.ofPairs members), r)
    | t => readScalar? t

def read? (t : Text) : Option Value :=
  match readValue? 127 (skipBlanks t) with
  | some (v, r) => if (skipBlanks r).isEmpty then some v else none
  | none => none

end ResponsiveStyles.Json
