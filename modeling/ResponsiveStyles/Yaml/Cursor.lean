import ResponsiveStyles.Text.Basic

/-!
# Places in a YAML text

A cursor is the rest of a text with the line and the column where it begins, and with the count of the
bytes before it in UTF-8. Lines end at line feeds, carriage returns, and the Unicode line ends; in a
scalar most of them count as a line feed.
-/
namespace ResponsiveStyles.Yaml

def isBreak (c : Char) : Bool :=
  c = '\n' || c = '\r' || c = '\x85' || c = '\u2028' || c = '\u2029'

def isSpacing (c : Char) : Bool :=
  c = ' ' || c = '\t'

def atGap : Text → Bool
  | [] => true
  | c :: _ => isSpacing c || isBreak c

def atLineEnd : Text → Bool
  | [] => true
  | c :: _ => isBreak c

def isAllowed (c : Char) : Bool :=
  let n := c.toNat
  n == 0x09 || n == 0x0A || n == 0x0D || (0x20 ≤ n && n ≤ 0x7E) || n == 0x85 ||
    (0xA0 ≤ n && n ≤ 0xD7FF) || (0xE000 ≤ n && n ≤ 0xFFFD) || 0x10000 ≤ n

def byteCount (t : Text) : Nat :=
  (t.map Char.utf8Size).foldr (· + ·) 0

structure Cursor where
  rest : Text
  /-- How many bytes stand before the rest. -/
  offset : Nat := 0
  line : Nat := 0
  column : Nat := 0

namespace Cursor

def skipMany (c : Cursor) (n : Nat) : Cursor :=
  { c with
    rest := c.rest.drop n
    offset := c.offset + byteCount (c.rest.take n)
    column := c.column + n }

def skip (c : Cursor) : Cursor :=
  c.skipMany 1

def skipWhile (c : Cursor) (p : Char → Bool) : Cursor :=
  c.skipMany (c.rest.takeWhile p).length

/-- Passes a line end, and gives what it counts as in a scalar; nothing at other places. -/
def takeBreak (c : Cursor) : Text × Cursor :=
  match c.rest with
  | '\r' :: '\n' :: r =>
    (['\n'], { rest := r, offset := c.offset + 2, line := c.line + 1, column := 0 })
  | b :: r =>
    let next : Cursor :=
      { rest := r, offset := c.offset + b.utf8Size, line := c.line + 1, column := 0 }
    if b = '\u2028' || b = '\u2029' then ([b], next)
    else if isBreak b then (['\n'], next)
    else ([], c)
  | [] => ([], c)

def skipComment (c : Cursor) : Cursor :=
  if c.rest.head? = some '#' then c.skipWhile (fun x => !isBreak x) else c

/-- Whether a line of three equal marks begins here. -/
def atMarks (c : Cursor) (mark : Char) : Bool :=
  c.column = 0 &&
    match List.isPrefixOf? [mark, mark, mark] c.rest with
    | some r => atGap r
    | none => false

def atDocumentMark (c : Cursor) : Bool :=
  c.atMarks '-' || c.atMarks '.'

end Cursor

end ResponsiveStyles.Yaml
