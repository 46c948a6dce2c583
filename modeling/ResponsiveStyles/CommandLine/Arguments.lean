import ResponsiveStyles.Decimal.Reader
import ResponsiveStyles.Text.Basic

/-!
# Arguments of the command line

A call names a command and gives it operands. Options for all commands may stand before the command or
behind it, and the one behind counts. No option may be given twice in one place; two hyphens end the
options of a place. Reading stops at the first mistake, and at the first request for help.
-/
namespace ResponsiveStyles.CommandLine

inductive OutputFormat where
  | json
  | text
deriving DecidableEq, Repr

inductive CommandName where
  | compile
  | css
  | html
  | hash
deriving DecidableEq, Repr

inductive OptionName where
  | config
  | breakpointsCss
  | seed
  | format
  | file
  | remove
  | stylesheet
  | help
  | version
deriving DecidableEq, Repr

inductive Halt where
  | misuse
  | help
  | version
deriving DecidableEq, Repr

namespace CommandName

def all : List CommandName := [.compile, .css, .html, .hash]

def word : CommandName → Text
  | .compile => "compile".toList
  | .css => "css".toList
  | .html => "html".toList
  | .hash => "hash".toList

def ofWord? (w : Text) : Option CommandName :=
  all.find? fun c => c.word = w

/-- How many operands a command takes; any number when there is none. -/
def capacity? : CommandName → Option Nat
  | .compile => none
  | .css => some 0
  | .html => some 0
  | .hash => some 1

def ownOptions : CommandName → List OptionName
  | .compile => []
  | .css => [.file]
  | .html => [.file, .remove, .stylesheet]
  | .hash => []

end CommandName

namespace OptionName

def common : List OptionName := [.config, .breakpointsCss, .seed, .format, .help]

def long : OptionName → Text
  | .config => "config".toList
  | .breakpointsCss => "breakpoints-css".toList
  | .seed => "seed".toList
  | .format => "format".toList
  | .file => "file".toList
  | .remove => "remove".toList
  | .stylesheet => "stylesheet".toList
  | .help => "help".toList
  | .version => "version".toList

def short? : OptionName → Option Char
  | .config => some 'c'
  | .breakpointsCss => none
  | .seed => none
  | .format => some 'o'
  | .file => some 'f'
  | .remove => none
  | .stylesheet => none
  | .help => some 'h'
  | .version => some 'V'

def takesValue : OptionName → Bool
  | .config => true
  | .breakpointsCss => true
  | .seed => true
  | .format => true
  | .file => true
  | .remove => false
  | .stylesheet => false
  | .help => false
  | .version => false

end OptionName

/-- What is given in one place: before the command, or behind it. -/
structure Given where
  config : Option Text := none
  breakpointsCss : Option Text := none
  seed : Option UInt32 := none
  format : Option OutputFormat := none
  file : Option Text := none
  remove : Bool := false
  stylesheet : Bool := false
  operands : List Text := []

def readSeed? (t : Text) : Option UInt32 :=
  let (negative, digits) := Decimal.splitSign t
  if digits = [] || !digits.all Char.isDigit then none
  else
    let n := Decimal.digitsValue digits
    if (negative && n ≠ 0) || UInt32.size ≤ n then none else some n.toUInt32

def readFormat? (t : Text) : Option OutputFormat :=
  if t = "json".toList then some .json
  else if t = "text".toList then some .text
  else none

def readPath? (t : Text) : Option Text :=
  if t = [] then none else some t

namespace Given

def fill (old value : Option α) (put : α → Given) : Except Halt Given :=
  match old, value with
  | none, some v => .ok (put v)
  | _, _ => .error .misuse

def setValue (g : Given) (o : OptionName) (v : Text) : Except Halt Given :=
  match o with
  | .config => fill g.config (readPath? v) fun v => { g with config := some v }
  | .breakpointsCss =>
    fill g.breakpointsCss (readPath? v) fun v => { g with breakpointsCss := some v }
  | .seed => fill g.seed (readSeed? v) fun v => { g with seed := some v }
  | .format => fill g.format (readFormat? v) fun v => { g with format := some v }
  | .file => fill g.file (readPath? v) fun v => { g with file := some v }
  | _ => .error .misuse

def setFlag (g : Given) (o : OptionName) : Except Halt Given :=
  match o with
  | .remove => if g.remove then .error .misuse else .ok { g with remove := true }
  | .stylesheet => if g.stylesheet then .error .misuse else .ok { g with stylesheet := true }
  | .help => .error .help
  | .version => .error .version
  | _ => .error .misuse

def addOperand (g : Given) (capacity : Option Nat) (t : Text) : Except Halt Given :=
  match capacity with
  | none => .ok { g with operands := g.operands ++ [t] }
  | some n =>
    if g.operands.length < n then .ok { g with operands := g.operands ++ [t] } else .error .misuse

end Given

def isOptionLike : Text → Bool
  | '-' :: _ :: _ => true
  | _ => false

/-- Gives an option its value: the text attached to it, or else the next argument. -/
def giveValue (g : Given) (o : OptionName) (attached : Option Text) (rest : List Text) :
    Except Halt (Given × List Text) :=
  match attached, rest with
  | some v, _ => (g.setValue o v).map (·, rest)
  | none, v :: r => if isOptionLike v then .error .misuse else (g.setValue o v).map (·, r)
  | none, [] => .error .misuse

def readLong (options : List OptionName) (g : Given) (t : Text) (rest : List Text) :
    Except Halt (Given × List Text) :=
  let name := t.takeWhile (· != '=')
  let attached := match t.dropWhile (· != '=') with
    | [] => none
    | _ :: v => some v
  match options.find? fun o => o.long = name with
  | none => .error .misuse
  | some o =>
    if o.takesValue then giveValue g o attached rest
    else if attached.isSome then .error .misuse
    else (g.setFlag o).map (·, rest)

/-- Reads options by their letters. The value of the last one may be attached to it. -/
def readShort (options : List OptionName) (g : Given) (letters : Text) (rest : List Text) :
    Except Halt (Given × List Text) :=
  match letters with
  | [] => .ok (g, rest)
  | x :: r =>
    match options.find? fun o => o.short? = some x with
    | none => .error .misuse
    | some o =>
      if o.takesValue then
        let attached := match r with
          | [] => none
          | '=' :: v => some v
          | v => some v
        giveValue g o attached rest
      else
        match g.setFlag o with
        | .error e => .error e
        | .ok g => readShort options g r rest

def addOperands (g : Given) (capacity : Option Nat) (ts : List Text) : Except Halt Given :=
  ts.foldlM (fun g t => g.addOperand capacity t) g

def readBehind (options : List OptionName) (capacity : Option Nat) :
    Nat → Given → List Text → Except Halt Given
  | 0, _, _ => .error .misuse
  | _, g, [] => .ok g
  | fuel + 1, g, t :: rest =>
    match t with
    | ['-', '-'] => addOperands g capacity rest
    | '-' :: '-' :: name =>
      match readLong options g name rest with
      | .error e => .error e
      | .ok (g, rest) => readBehind options capacity fuel g rest
    | '-' :: x :: letters =>
      match readShort options g (x :: letters) rest with
      | .error e => .error e
      | .ok (g, rest) => readBehind options capacity fuel g rest
    | t =>
      match g.addOperand capacity t with
      | .error e => .error e
      | .ok g => readBehind options capacity fuel g rest

def readHelp : List Text → Halt
  | [] => .help
  | [w] => if (CommandName.ofWord? w).isSome || w = "help".toList then .help else .misuse
  | _ => .misuse

def readBefore (options : List OptionName) :
    Nat → Given → List Text → Except Halt (Given × CommandName × List Text)
  | 0, _, _ => .error .misuse
  | _, _, [] => .error .misuse
  | fuel + 1, g, t :: rest =>
    match t with
    | ['-', '-'] => .error .misuse
    | '-' :: '-' :: name =>
      match readLong options g name rest with
      | .error e => .error e
      | .ok (g, rest) => readBefore options fuel g rest
    | '-' :: x :: letters =>
      match readShort options g (x :: letters) rest with
      | .error e => .error e
      | .ok (g, rest) => readBefore options fuel g rest
    | t =>
      match CommandName.ofWord? t with
      | some c => .ok (g, c, rest)
      | none => .error (if t = "help".toList then readHelp rest else .misuse)

/-! ## Calls -/

inductive Command where
  | compile (keys : List Text)
  | css (file : Option Text)
  | html (file : Option Text) (remove stylesheet : Bool)
  | hash (text : Text)
deriving DecidableEq, Repr

structure Invocation where
  config : Option Text := none
  breakpointsCss : Option Text := none
  seed : Option UInt32 := none
  format : OutputFormat := .text
  command : Command

def commandOf (name : CommandName) (g : Given) : Except Halt Command :=
  match name, g.operands with
  | .compile, [] => .error .misuse
  | .compile, keys => .ok (.compile keys)
  | .css, _ => .ok (.css g.file)
  | .html, _ => .ok (.html g.file g.remove g.stylesheet)
  | .hash, [t] => .ok (.hash t)
  | .hash, _ => .error .misuse

/-- The call that arguments make. The environment may name a configuration for calls that name none;
an empty name there is a mistake unless both places give one. -/
def Invocation.ofArguments (arguments : List Text) (environment : Option Text) :
    Except Halt Invocation := do
  let fuel := arguments.length + 1
  let (before, name, rest) ← readBefore (.version :: OptionName.common) fuel {} arguments
  let behind ← readBehind (OptionName.common ++ name.ownOptions) name.capacity? fuel {} rest
  let command ← commandOf name behind
  if environment = some [] ∧ (before.config.isNone ∨ behind.config.isNone) then
    .error .misuse
  else
    return {
      config := (behind.config.or before.config).or environment
      breakpointsCss := behind.breakpointsCss.or before.breakpointsCss
      seed := behind.seed.or before.seed
      format := (behind.format.or before.format).getD .text
      command }

end ResponsiveStyles.CommandLine
