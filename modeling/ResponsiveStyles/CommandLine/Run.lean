import ResponsiveStyles.CommandLine.Arguments
import ResponsiveStyles.Config.Reader
import ResponsiveStyles.Json.Printer
import ResponsiveStyles.Markup.Annotator

/-!
# Carrying out a call

A call reads each of its texts once, from a file or from the input, and in a fixed order. It writes one
text, or fails before it has written anything. How a text is read is left to the caller, in a monad of
the caller's choice.
-/
namespace ResponsiveStyles.CommandLine

inductive Failure where
  | config (path : Text) (cause : InputError)
  | file (path : Text)
  | input
  | styleMap

namespace Failure

def message : Failure → Text
  | .config path _ => "Failed to load config '".toList ++ path ++ ['\'']
  | .file path => "Failed to read '".toList ++ path ++ ['\'']
  | .input => "Failed to read stdin".toList
  | .styleMap => "Invalid style map".toList

def report : Failure → Text
  | .config path cause =>
    let detail := match cause.message? with
      | some m => ": ".toList ++ m
      | none => []
    (Failure.config path cause).message ++ detail
  | f => f.message

end Failure

inductive Source where
  | file (path : Text)
  | input
deriving DecidableEq, Repr

def Source.failure : Source → Failure
  | .file path => .file path
  | .input => .input

inductive Purpose where
  | config
  | definition
  | work
deriving DecidableEq, Repr

structure Surroundings where
  /-- The text read for a purpose, if it could be read. -/
  text : Purpose → Option Text
  /-- The seed for configurations that have none. -/
  spareSeed : UInt32

def Surroundings.require (s : Surroundings) (p : Purpose) (source : Source) : Except Failure Text :=
  match s.text p with
  | some t => .ok t
  | none => .error source.failure

def workSource (file : Option Text) : Source :=
  match file with
  | some path => .file path
  | none => .input

namespace Invocation

/-- What a call reads, in order: the text to work on, its configuration, its stylesheet. -/
def sources (i : Invocation) : List (Purpose × Source) :=
  let settings := (i.config.map fun path => (Purpose.config, Source.file path)).toList ++
    (i.breakpointsCss.map fun path => (Purpose.definition, Source.file path)).toList
  match i.command with
  | .css file => (.work, workSource file) :: settings
  | .html file _ _ => (.work, workSource file) :: settings
  | .compile _ => settings
  | .hash _ => []

def surroundings {m : Type → Type} [Monad m] (i : Invocation) (read : Source → m (Option Text))
    (spareSeed : UInt32) : m Surroundings := do
  let texts ← i.sources.mapM fun (p, source) => return (p, ← read source)
  return { text := fun p => (texts.lookup p).join, spareSeed }

def baseConfig (i : Invocation) (s : Surroundings) : Except Failure Config :=
  match i.config with
  | none => .ok {}
  | some path =>
    match s.text .config with
    | none => .error (.config path .file)
    | some t =>
      match Config.ofText t with
      | .ok c => .ok c
      | .error cause => .error (.config path cause)

/-- The configuration of a call: the definition in a stylesheet and the seed are put into that of the
file. -/
def loadConfig (i : Invocation) (s : Surroundings) : Except Failure Config := do
  let c ← i.baseConfig s
  let c ← match i.breakpointsCss with
    | none => pure c
    | some path => do
      let css ← s.require .definition (.file path)
      pure { c with definition := (Definition.ofStylesheet? css c.breakpointKey).or c.definition }
  return { c with seed := i.seed.or c.seed }

def compiler (c : Config) (s : Surroundings) : StyleCompiler Unit :=
  .ofConfig c [] .byClass s.spareSeed

def compileKeys (c : StyleCompiler Unit) : List Text → List (Text × Text)
  | [] => []
  | key :: r =>
    let (query, c) := c.compileKey key
    (key, query) :: compileKeys c r

def line (t : Text) : Text := t ++ ['\n']

def jsonLines (v : Json.Value) : Text := line (v.indented 0)

def jsonNumber (n : Nat) : Json.Value := .number (.whole n)

def jsonRule (r : PushedRule) : Json.Value :=
  .object [("key".toList, .string r.key), ("mediaQuery".toList, .string r.mediaQuery),
    ("style".toList, .string r.style),
    ("fingerprint".toList, jsonNumber r.fingerprint.toNat),
    ("selector".toList, .string r.selector)]

def runCompile (i : Invocation) (keys : List Text) (s : Surroundings) : Except Failure Text := do
  let c ← i.loadConfig s
  let queries := compileKeys (compiler c s) keys
  match i.format with
  | .text => return queries.flatMap fun (_, query) => line query
  | .json =>
    return jsonLines (.object
      (OrderedMap.ofPairs (queries.map fun (key, query) => (key, .string query))))

def runCss (i : Invocation) (file : Option Text) (s : Surroundings) : Except Failure Text := do
  let text ← s.require .work (workSource file)
  match StyleMap.read? text with
  | none => .error .styleMap
  | some styles =>
    let c ← i.loadConfig s
    let (rules, c) := (compiler c s).push none styles
    match i.format with
    | .text => return line c.stylesheet
    | .json =>
      return jsonLines (.object [("seed".toList, jsonNumber c.seed.toNat),
        ("rules".toList, .array (rules.map jsonRule)),
        ("css".toList, .string c.stylesheet)])

def runHtml (i : Invocation) (file : Option Text) (remove stylesheet : Bool) (s : Surroundings) :
    Except Failure Text := do
  let text ← s.require .work (workSource file)
  let c ← i.loadConfig s
  let (html, a) := (MarkupAnnotator.ofConfig (γ := Unit) c [] s.spareSeed).annotate text remove
  match i.format with
  | .text => return html ++ (if stylesheet then a.styleElement else [])
  | .json =>
    return jsonLines (.object [("html".toList, .string html),
      ("css".toList, .string a.compiler.stylesheet),
      ("seed".toList, jsonNumber a.compiler.seed.toNat)])

def runHash (i : Invocation) (text : Text) : Text :=
  let seed := i.seed.getD 0
  let h := (fingerprint text seed).toNat
  match i.format with
  | .text => line (Text.ofNat h)
  | .json =>
    line (Json.Value.object [("text".toList, .string text),
      ("seed".toList, jsonNumber seed.toNat), ("hash".toList, jsonNumber h)]).compact

def run (i : Invocation) (s : Surroundings) : Except Failure Text :=
  match i.command with
  | .compile keys => i.runCompile keys s
  | .css file => i.runCss file s
  | .html file remove stylesheet => i.runHtml file remove stylesheet s
  | .hash text => .ok (i.runHash text)

end Invocation

structure Outcome where
  /-- Zero for success, one for a failure, two for a call that makes no sense. -/
  code : UInt32
  output : Text := []
  failure : Option Failure := none

namespace Outcome

def helpLines : List String :=
  ["Compile breakpoint query keys and responsive style attributes to CSS",
    "",
    "Usage: rsa [OPTIONS] <COMMAND>",
    "",
    "Commands:",
    "  compile  Expand query keys to media queries",
    "  css      Register a JSON style map and print the resulting CSS",
    "  html     Annotate markup with rule markers",
    "  hash     Print the 53-bit fingerprint of a string",
    "  help     Print this message",
    "",
    "Options:",
    "  -c, --config <CONFIG>                    Compiler configuration (YAML or JSON)",
    "      --breakpoints-css <BREAKPOINTS_CSS>  CSS file with the breakpoint definition",
    "      --seed <SEED>                        Fingerprint seed (overrides the configuration)",
    "  -o, --format <FORMAT>                    Output format: json or text",
    "  -h, --help                               Print help",
    "  -V, --version                            Print version"]

def ofHalt : Halt → Outcome
  | .misuse => { code := 2 }
  | .help => { code := 0, output := helpLines.flatMap fun l => Invocation.line l.toList }
  | .version => { code := 0, output := Invocation.line "rsa 0.1.0".toList }

def ofResult : Except Failure Text → Outcome
  | .ok t => { code := 0, output := t }
  | .error f => { code := 1, failure := some f }

end Outcome

def outcome {m : Type → Type} [Monad m] (arguments : List Text) (environment : Option Text)
    (read : Source → m (Option Text)) (spareSeed : UInt32) : m Outcome := do
  match Invocation.ofArguments arguments environment with
  | .error h => return .ofHalt h
  | .ok i => return .ofResult (i.run (← i.surroundings read spareSeed))

end ResponsiveStyles.CommandLine
