import ResponsiveStyles.Json.Reader
import ResponsiveStyles.Yaml.Cursor

/-!
# Scalars in YAML texts

A scalar is written plainly, between single or double quotes, or as a block of lines. In plain and
quoted scalars a line end counts as a space, and each further line end as itself; a folded block does
the same between lines that do not begin with a space.
-/
namespace ResponsiveStyles.Yaml

inductive ScalarStyle where
  | plain
  | singleQuoted
  | doubleQuoted
  | literal
  | folded
deriving DecidableEq, Repr

structure Gap where
  spaces : Text := []
  /-- Whether the run reaches over a line end. -/
  broken : Bool := false
  first : Text := []
  others : Text := []

namespace Gap

def foldBreaks (first others : Text) : Text :=
  if first = ['\n'] then (if others = [] then [' '] else others) else first ++ others

def fold (g : Gap) : Text :=
  if g.broken then foldBreaks g.first g.others else g.spaces

def read? (indent : Int) : Nat → Gap → Cursor → Option (Gap × Cursor)
  | 0, g, c => some (g, c)
  | fuel + 1, g, c =>
    match c.rest with
    | [] => some (g, c)
    | x :: _ =>
      if isSpacing x then
        if g.broken then
          if x = '\t' ∧ (c.column : Int) < indent then none else read? indent fuel g c.skip
        else read? indent fuel { g with spaces := g.spaces ++ [x] } c.skip
      else if isBreak x then
        let (b, next) := c.takeBreak
        if g.broken then read? indent fuel { g with others := g.others ++ b } next
        else read? indent fuel { g with spaces := [], broken := true, first := b } next
      else some (g, c)

end Gap

/-! ## Plain scalars -/

/-- The characters up to the end of a plain word; a colon in a flow collection may not be followed by
certain marks. -/
def plainWord? (flow : Bool) : Text → Option Text
  | [] => some []
  | c :: r =>
    if isSpacing c || isBreak c then some []
    else if flow && c = ':' && (r.head?.any fun d => ",?[]\x7b\x7d".toList.contains d) then none
    else if c = ':' && atGap r then some []
    else if flow && ",[]\x7b\x7d".toList.contains c then some []
    else (plainWord? flow r).map (c :: ·)

/-- Words and the runs between them, up to the end of a plain scalar. The gap at its end is passed, and
it is told whether it reached over a line end. -/
def plainScalar? (flow : Bool) (indent : Int) :
    Nat → Text → Gap → Cursor → Option (Text × Bool × Cursor)
  | 0, _, _, _ => none
  | fuel + 1, read, gap, c =>
    if c.atDocumentMark || c.rest.head? = some '#' then some (read, gap.broken, c)
    else
      match plainWord? flow c.rest with
      | none => none
      | some word =>
        let read := if word = [] then read else read ++ gap.fold ++ word
        let gap := if word = [] then gap else {}
        let c := c.skipMany word.length
        if c.rest = [] || !atGap c.rest then some (read, gap.broken, c)
        else
          match Gap.read? indent (c.rest.length + 1) {} c with
          | none => none
          | some (gap, c) =>
            if !flow && (c.column : Int) < indent then some (read, gap.broken, c)
            else plainScalar? flow indent fuel read gap c

/-! ## Quoted scalars -/

def escaped? : Char → Option Char
  | '0' => some '\x00'
  | 'a' => some '\x07'
  | 'b' => some '\x08'
  | 't' => some '\t'
  | '\t' => some '\t'
  | 'n' => some '\n'
  | 'v' => some '\x0b'
  | 'f' => some '\x0c'
  | 'r' => some '\r'
  | 'e' => some '\x1b'
  | ' ' => some ' '
  | '"' => some '"'
  | '/' => some '/'
  | '\\' => some '\\'
  | 'N' => some '\x85'
  | '_' => some '\xa0'
  | 'L' => some '\u2028'
  | 'P' => some '\u2029'
  | _ => none

def escapeDigits? : Char → Option Nat
  | 'x' => some 2
  | 'u' => some 4
  | 'U' => some 8
  | _ => none

def charOf? (n : Nat) : Option Char :=
  if n < 0xD800 ∨ (0xDFFF < n ∧ n < 0x110000) then some (Char.ofNat n) else none

def readEscape? : Text → Option (Char × Nat)
  | '\\' :: c :: r =>
    match escapeDigits? c with
    | some n =>
      let digits := r.take n
      if digits.length < n then none
      else (Json.hexValue? digits).bind fun v => (charOf? v).map (·, n + 2)
    | none => (escaped? c).map (·, 2)
  | _ => none

def quotedWord? (double : Bool) : Nat → Text → Cursor → Option (Text × Bool × Cursor)
  | 0, _, _ => none
  | fuel + 1, read, c =>
    match c.rest with
    | [] => some (read, false, c)
    | x :: r =>
      if isSpacing x || isBreak x then some (read, false, c)
      else if !double && x = '\'' then
        if r.head? = some '\'' then quotedWord? double fuel (read ++ [x]) (c.skipMany 2)
        else some (read, false, c)
      else if double && x = '"' then some (read, false, c)
      else if double && x = '\\' then
        if r ≠ [] ∧ atLineEnd r then some (read, true, c.skip.takeBreak.2)
        else
          match readEscape? (x :: r) with
          | some (e, n) => quotedWord? double fuel (read ++ [e]) (c.skipMany n)
          | none => none
      else quotedWord? double fuel (read ++ [x]) c.skip

def quotedScalar? (double : Bool) : Nat → Text → Cursor → Option (Text × Cursor)
  | 0, _, _ => none
  | fuel + 1, read, c =>
    if c.atDocumentMark || c.rest = [] then none
    else
      match quotedWord? double (c.rest.length + 1) [] c with
      | none => none
      | some (word, escapedBreak, c) =>
        let read := read ++ word
        if c.rest.head? = some (if double then '"' else '\'') then
          some (read, c.skip)
        else
          match Gap.read? 0 (c.rest.length + 1) { broken := escapedBreak } c with
          | none => none
          | some (gap, c) => quotedScalar? double fuel (read ++ gap.fold) c

/-! ## Blocks -/

inductive Chomping where
  | strip
  | clip
  | keep
deriving DecidableEq, Repr

def blockHeader? (c : Cursor) : Option (Chomping × Nat × Cursor) :=
  let chomping? (x : Option Char) : Option Chomping :=
    if x = some '+' then some .keep else if x = some '-' then some .strip else none
  let digit? (x : Option Char) : Option Nat :=
    x.bind fun d => if d.isDigit then some (d.toNat - '0'.toNat) else none
  let header : Chomping × Option Nat × Cursor :=
    match chomping? c.rest.head? with
    | some k =>
      match digit? c.skip.rest.head? with
      | some n => (k, some n, c.skip.skip)
      | none => (k, none, c.skip)
    | none =>
      match digit? c.rest.head? with
      | some n =>
        match chomping? c.skip.rest.head? with
        | some k => (k, some n, c.skip.skip)
        | none => (.clip, some n, c.skip)
      | none => (.clip, none, c)
  match header with
  | (_, some 0, _) => none
  | (k, n, c) =>
    let c := (c.skipWhile isSpacing).skipComment
    if atLineEnd c.rest then some (k, n.getD 0, c.takeBreak.2) else none

/-- Passes the indentation of the next line of a block and the blank lines before it, and gives the
line ends and the greatest column seen. With `indent` zero any number of spaces is passed. -/
def blockBreaks? (indent : Nat) :
    Nat → Text → Nat → Cursor → Option (Text × Nat × Cursor)
  | 0, _, _, _ => none
  | fuel + 1, breaks, widest, c =>
    let spaces := (c.rest.takeWhile (· = ' ')).length
    let c := c.skipMany (if indent = 0 then spaces else min spaces (indent - c.column))
    let widest := max widest c.column
    if (indent = 0 || c.column < indent) && c.rest.head? = some '\t' then none
    else if c.rest ≠ [] ∧ atLineEnd c.rest then
      let (b, next) := c.takeBreak
      blockBreaks? indent fuel (breaks ++ b) widest next
    else some (breaks, widest, c)

/-- The lines of a block. `lineEnd` is the end of the last line, and `breaks` are those of the blank
lines after it. -/
def blockLines? (fold : Bool) (indent : Nat) :
    Nat → Text → Text → Text → Bool → Cursor → Option (Text × Text × Text × Cursor)
  | 0, _, _, _, _, _ => none
  | fuel + 1, read, lineEnd, breaks, afterSpace, c =>
    if c.column ≠ indent || c.rest = [] then some (read, lineEnd, breaks, c)
    else
      let space := c.rest.head?.any isSpacing
      let joined :=
        if fold && lineEnd = ['\n'] && !afterSpace && !space then
          (if breaks = [] then [' '] else breaks)
        else lineEnd ++ breaks
      let content := c.rest.takeWhile fun x => !isBreak x
      let (lineEnd, c) := (c.skipMany content.length).takeBreak
      match blockBreaks? indent (c.rest.length + 1) [] 0 c with
      | none => none
      | some (breaks, _, c) =>
        blockLines? fold indent fuel (read ++ joined ++ content) lineEnd breaks space c

def blockScalar? (fold : Bool) (parent : Int) (c : Cursor) : Option (Text × Cursor) :=
  match blockHeader? c with
  | none => none
  | some (chomping, increment, c) =>
    let given := if increment = 0 then 0 else (max parent 0).toNat + increment
    match blockBreaks? given (c.rest.length + 1) [] 0 c with
    | none => none
    | some (breaks, widest, c) =>
      let indent :=
        if given = 0 then max (max widest (parent + 1).toNat) 1 else given
      match blockLines? fold indent (c.rest.length + 1) [] [] breaks false c with
      | none => none
      | some (read, lineEnd, breaks, c) =>
        match chomping with
        | .strip => some (read, c)
        | .clip => some (read ++ lineEnd, c)
        | .keep => some (read ++ lineEnd ++ breaks, c)

end ResponsiveStyles.Yaml
