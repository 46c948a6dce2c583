import ResponsiveStyles.Yaml.Scalar

/-!
# Tokens of YAML texts

The structure of a text shows in its marks and in its indentation. A key is only known as one when the
colon after it is met, so that the token for it, and the one that opens its mapping, are put in front
of tokens that are already there. A key stands on one line and takes up at most 1024 bytes of UTF-8.
-/
namespace ResponsiveStyles.Yaml

inductive Token where
  | versionDirective (major minor : Nat)
  | tagDirective (handle expansion : Text)
  | documentStart
  | documentEnd
  | blockSequenceStart
  | blockMappingStart
  | blockEnd
  | flowSequenceStart
  | flowSequenceEnd
  | flowMappingStart
  | flowMappingEnd
  | blockEntry
  | flowEntry
  | key
  | value
  | alias (name : Text)
  | anchor (name : Text)
  | tag (handle suffix : Text)
  | scalar (style : ScalarStyle) (content : Text)
deriving DecidableEq, Repr

structure KeyStart where
  /-- Whether nothing but a key can stand there. -/
  required : Bool
  /-- How many tokens stand before it. -/
  position : Nat
  start : Cursor

structure Lexer where
  cursor : Cursor
  tokens : List Token := []
  /-- The column of the innermost block collection, and those of the collections around it. -/
  indent : Int := -1
  outer : List Int := []
  keyAllowed : Bool := true
  /-- Where a key may have begun in the innermost flow collection, and in each one around it. -/
  keys : List (Option KeyStart) := [none]

namespace Lexer

def inFlow (l : Lexer) : Bool :=
  1 < l.keys.length

def push (l : Lexer) (t : Token) : Lexer :=
  { l with tokens := l.tokens ++ [t] }

def pushMark (l : Lexer) (t : Token) : Lexer :=
  { l.push t with cursor := l.cursor.skip }

def dropKey? (l : Lexer) : Option Lexer :=
  match l.keys with
  | some k :: r => if k.required then none else some { l with keys := none :: r }
  | _ => some l

def dropStaleKeys? (l : Lexer) : Option Lexer :=
  let stale (k : KeyStart) : Bool :=
    k.start.line < l.cursor.line || k.start.offset + 1024 < l.cursor.offset
  if l.keys.any fun k => k.any fun k => stale k && k.required then none
  else some { l with keys := l.keys.map fun k => k.filter fun k => !stale k }

def saveKey? (l : Lexer) : Option Lexer :=
  if l.keyAllowed then do
    let required := !l.inFlow && l.indent == (l.cursor.column : Int)
    let l ← l.dropKey?
    return { l with keys := some ⟨required, l.tokens.length, l.cursor⟩ :: l.keys.drop 1 }
  else some l

def openBlock (l : Lexer) (column position : Nat) (t : Token) : Lexer :=
  if !l.inFlow && l.indent < column then
    { l with
      indent := column
      outer := l.indent :: l.outer
      tokens := l.tokens.take position ++ t :: l.tokens.drop position }
  else l

def closeAll (column : Int) : Int → List Int → List Token × Int × List Int
  | indent, [] => if column < indent then ([.blockEnd], -1, []) else ([], indent, [])
  | indent, i :: outer =>
    if column < indent then
      let (ts, result) := closeAll column i outer
      (.blockEnd :: ts, result)
    else ([], indent, i :: outer)

def closeBlocks (l : Lexer) (column : Int) : Lexer :=
  if l.inFlow then l
  else
    let (ts, indent, outer) := closeAll column l.indent l.outer
    { l with tokens := l.tokens ++ ts, indent, outer }

/-! ## Between tokens -/

/-- Passes spaces, comments and line ends. Tabs do not indent; a byte order mark at the start of a line
does, by one column. -/
def skipGap : Nat → Lexer → Lexer
  | 0, l => l
  | fuel + 1, l =>
    let c := l.cursor
    let c := if c.column = 0 ∧ c.rest.head? = some '\ufeff' then c.skip else c
    let tabs := l.inFlow || !l.keyAllowed
    let c := c.skipWhile fun x => x = ' ' || (tabs && x = '\t')
    let c := c.skipComment
    if c.rest ≠ [] ∧ atLineEnd c.rest then
      skipGap fuel
        { l with cursor := c.takeBreak.2, keyAllowed := if l.inFlow then l.keyAllowed else true }
    else { l with cursor := c }

/-! ## Names -/

def isNameChar (c : Char) : Bool :=
  c.isAlphanum || c = '_' || c = '-'

def anchorName? (c : Cursor) : Option (Text × Cursor) :=
  let name := c.rest.takeWhile isNameChar
  let c := c.skipMany name.length
  let ends := atGap c.rest || c.rest.head?.any fun x => "?:,]\x7d%@\x60".toList.contains x
  if name = [] || !ends then none else some (name, c)

def escapedByte? : Text → Option UInt8
  | '%' :: a :: b :: _ => (Json.hexValue? [a, b]).map Nat.toUInt8
  | _ => none

def followers? (first : UInt8) : Option Nat :=
  if first < 0x80 then some 0
  else if first < 0xC0 then none
  else if first < 0xE0 then some 1
  else if first < 0xF0 then some 2
  else if first < 0xF8 then some 3
  else none

def followingBytes? : Nat → Text → Option (List UInt8)
  | 0, _ => some []
  | n + 1, t =>
    match escapedByte? t with
    | some b =>
      if b &&& 0xC0 = 0x80 then (followingBytes? n (t.drop 3)).map (b :: ·) else none
    | none => none

/-- The character that bytes spell in UTF-8. Bytes that spell none count as the replacement
character. -/
def charOfBytes (bytes : List UInt8) : Char :=
  match (String.fromUTF8? bytes.toByteArray).map String.toList with
  | some [c] => c
  | _ => '\ufffd'

def escapedChar? (t : Text) : Option (Char × Nat) := do
  let first ← escapedByte? t
  let bytes ← followingBytes? (← followers? first) (t.drop 3)
  return (charOfBytes (first :: bytes), bytes.length + 1)

def tagChars? (verbatim : Bool) : Nat → Text → Cursor → Option (Text × Cursor)
  | 0, _, _ => none
  | fuel + 1, read, c =>
    match c.rest with
    | [] => some (read, c)
    | x :: _ =>
      if x = '%' then
        match escapedChar? c.rest with
        | some (e, n) => tagChars? verbatim fuel (read ++ [e]) (c.skipMany (3 * n))
        | none => none
      else if isNameChar x || ";/?:@&=+$.!~*'()".toList.contains x ||
          (verbatim && ",[]".toList.contains x) then
        tagChars? verbatim fuel (read ++ [x]) c.skip
      else some (read, c)

/-- What counts of a tag or of a part of it: a null character ends it. -/
def cutAtNull (t : Text) : Text :=
  t.takeWhile (· != '\x00')

def tagPart? (verbatim : Bool) (c : Cursor) : Option (Text × Cursor) := do
  let (part, c) ← tagChars? verbatim (c.rest.length + 1) [] c
  if part = [] then none else return (cutAtNull part, c)

/-- Reads what may be a handle: an exclamation mark, a name, and a second exclamation mark. -/
def tagHandle (c : Cursor) : Text × Cursor :=
  let name := (c.rest.drop 1).takeWhile isNameChar
  let c := c.skipMany (name.length + 1)
  if c.rest.head? = some '!' then ('!' :: (name ++ ['!']), c.skip) else ('!' :: name, c)

def tag? (flow : Bool) (c : Cursor) : Option (Token × Cursor) := do
  let (handle, suffix, c) ←
    if (c.rest.drop 1).head? = some '<' then do
      let (suffix, c) ← tagPart? true (c.skipMany 2)
      if c.rest.head? ≠ some '>' then none else some ([], suffix, c.skip)
    else do
      let (handle, c) := tagHandle c
      if 1 < handle.length && handle.getLast? = some '!' then
        let (suffix, c) ← tagPart? false c
        some (handle, suffix, c)
      else
        let (suffix, c) ← tagChars? false (c.rest.length + 1) (handle.drop 1) c
        match cutAtNull suffix with
        | [] => some ([], ['!'], c)
        | suffix => some (['!'], suffix, c)
  let ends := atGap c.rest || (flow && c.rest.head? = some ',')
  if ends then return (.tag handle suffix, c) else none

def versionNumber? (c : Cursor) : Option (Nat × Cursor) :=
  let digits := c.rest.takeWhile Char.isDigit
  if digits = [] || 9 < digits.length then none
  else some (Decimal.digitsValue digits, c.skipMany digits.length)

def directiveValue? (name : Text) (c : Cursor) : Option (Token × Cursor) := do
  let c := c.skipWhile isSpacing
  if name = "YAML".toList then
    let (major, c) ← versionNumber? c
    if c.rest.head? ≠ some '.' then none
    else
      let (minor, c) ← versionNumber? c.skip
      return (.versionDirective major minor, c)
  else if name = "TAG".toList then
    if c.rest.head? ≠ some '!' then none
    else
      let (handle, c) := tagHandle c
      if handle ≠ ['!'] ∧ handle.getLast? ≠ some '!' then none
      else if !(c.rest.head?.any isSpacing) then none
      else
        let c := c.skipWhile isSpacing
        let (expansion, c) ← tagPart? true c
        if !atGap c.rest then none else return (.tagDirective handle expansion, c)
  else none

def directive? (c : Cursor) : Option (Token × Cursor) := do
  let c := c.skip
  let name := c.rest.takeWhile isNameChar
  let c := c.skipMany name.length
  if name = [] || !atGap c.rest then none
  else
    let (t, c) ← directiveValue? name c
    let c := (c.skipWhile isSpacing).skipComment
    if atLineEnd c.rest then return (t, c.takeBreak.2) else none

/-! ## One token -/

def blockEntry? (l : Lexer) : Option Lexer := do
  if !l.inFlow && !l.keyAllowed then none
  else
    let l := l.openBlock l.cursor.column l.tokens.length .blockSequenceStart
    let l ← l.dropKey?
    return { l with keyAllowed := true }.pushMark .blockEntry

def explicitKey? (l : Lexer) : Option Lexer := do
  if !l.inFlow && !l.keyAllowed then none
  else
    let l := l.openBlock l.cursor.column l.tokens.length .blockMappingStart
    let l ← l.dropKey?
    return { l with keyAllowed := !l.inFlow }.pushMark .key

def value? (l : Lexer) : Option Lexer :=
  match l.keys with
  | some k :: r =>
    let l := { l with
      tokens := l.tokens.take k.position ++ Token.key :: l.tokens.drop k.position
      keys := none :: r
      keyAllowed := false }
    some ((l.openBlock k.start.column k.position .blockMappingStart).pushMark .value)
  | _ =>
    if !l.inFlow && !l.keyAllowed then none
    else
      let l := l.openBlock l.cursor.column l.tokens.length .blockMappingStart
      some ({ l with keyAllowed := !l.inFlow }.pushMark .value)

def openFlow? (l : Lexer) (t : Token) : Option Lexer := do
  let l ← l.saveKey?
  return { l with keys := none :: l.keys, keyAllowed := true }.pushMark t

def closeFlow? (l : Lexer) (t : Token) : Option Lexer := do
  let l ← l.dropKey?
  let keys := if l.inFlow then l.keys.drop 1 else l.keys
  return { l with keys, keyAllowed := false }.pushMark t

def pushKeyLike? (l : Lexer) (read : Option (Token × Cursor)) : Option Lexer := do
  let l ← l.saveKey?
  let (t, c) ← read
  return { l.push t with cursor := c, keyAllowed := false }

/-- Reads a plain scalar. A key may begin after one that reaches to the next line. -/
def plain? (l : Lexer) : Option Lexer := do
  let l ← l.saveKey?
  let (content, broken, c) ←
    plainScalar? l.inFlow (l.indent + 1) (l.cursor.rest.length + 1) [] {} l.cursor
  return { l.push (.scalar .plain content) with cursor := c, keyAllowed := broken }

def quoted? (l : Lexer) (double : Bool) : Option Lexer :=
  let read := quotedScalar? double (l.cursor.rest.length + 1) [] l.cursor.skip
  l.pushKeyLike? (read.map fun (content, c) =>
    (.scalar (if double then .doubleQuoted else .singleQuoted) content, c))

def block? (l : Lexer) (fold : Bool) : Option Lexer := do
  let l ← l.dropKey?
  let (content, c) ← blockScalar? fold l.indent l.cursor.skip
  return { l.push (.scalar (if fold then .folded else .literal) content) with
    cursor := c, keyAllowed := true }

def leaveBlocks? (l : Lexer) : Option Lexer := do
  let l ← (l.closeBlocks (-1)).dropKey?
  return { l with keyAllowed := false }

def atPlain (l : Lexer) (x : Char) (r : Text) : Bool :=
  (!isSpacing x && !"-?:,[]\x7b\x7d#&*!|>'\"%@\x60".toList.contains x) ||
    (x = '-' && !(r.head?.any isSpacing)) ||
    (!l.inFlow && (x = '?' || x = ':') && !atGap r)

def token? (l : Lexer) (x : Char) (r : Text) : Option Lexer :=
  let c := l.cursor
  if c.column = 0 ∧ x = '%' then do
    let l ← l.leaveBlocks?
    let (t, c) ← directive? l.cursor
    return { l.push t with cursor := c }
  else if c.atMarks '-' then
    l.leaveBlocks?.map fun l => { l.push .documentStart with cursor := l.cursor.skipMany 3 }
  else if c.atMarks '.' then
    l.leaveBlocks?.map fun l => { l.push .documentEnd with cursor := l.cursor.skipMany 3 }
  else if x = '[' then l.openFlow? .flowSequenceStart
  else if x = '\x7b' then l.openFlow? .flowMappingStart
  else if x = ']' then l.closeFlow? .flowSequenceEnd
  else if x = '\x7d' then l.closeFlow? .flowMappingEnd
  else if x = ',' then
    l.dropKey?.map fun l => { l with keyAllowed := true }.pushMark .flowEntry
  else if x = '-' && atGap r then l.blockEntry?
  else if x = '?' && (l.inFlow || atGap r) then l.explicitKey?
  else if x = ':' && (l.inFlow || atGap r) then l.value?
  else if x = '*' then
    l.pushKeyLike? ((anchorName? c.skip).map fun (name, c) => (.alias name, c))
  else if x = '&' then
    l.pushKeyLike? ((anchorName? c.skip).map fun (name, c) => (.anchor name, c))
  else if x = '!' then l.pushKeyLike? (tag? l.inFlow c)
  else if x = '|' && !l.inFlow then l.block? false
  else if x = '>' && !l.inFlow then l.block? true
  else if x = '\'' then l.quoted? false
  else if x = '"' then l.quoted? true
  else if l.atPlain x r then l.plain?
  else none

def run? : Nat → Lexer → Option (List Token)
  | 0, _ => none
  | fuel + 1, l => do
    let l := skipGap (l.cursor.rest.length + 1) l
    let l ← l.dropStaleKeys?
    let l := l.closeBlocks l.cursor.column
    match l.cursor.rest with
    | [] =>
      let l ← l.leaveBlocks?
      return l.tokens
    | x :: r =>
      let l ← l.token? x r
      run? fuel l

end Lexer

def Token.ofText? (t : Text) : Option (List Token) :=
  if t.all isAllowed then Lexer.run? (2 * t.length + 2) { cursor := { rest := t } }
  else none

end ResponsiveStyles.Yaml
