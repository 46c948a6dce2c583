import ResponsiveStyles.Config.Basic
import ResponsiveStyles.Query.Compiler
import ResponsiveStyles.Style.Declarations
import ResponsiveStyles.Style.Map
import ResponsiveStyles.Style.Registry

/-!
# Rules from style maps

Each entry of a style map becomes a rule: its key becomes a media query, its declarations are brought
into canonical form, and both together are entered into the registry.
-/
namespace ResponsiveStyles

variable {γ : Type}

structure PushedRule where
  key : Text
  mediaQuery : Text
  /-- The declarations as they came. -/
  givenStyle : Text
  /-- The declarations as they are entered. -/
  style : Text
  fingerprint : UInt64
  selector : Text
deriving DecidableEq, Repr

structure StyleCompiler (γ : Type) where
  config : Config
  queries : QueryCompiler γ
  registry : StyleRegistry

namespace StyleCompiler

/-- A compiler without rules. The spare seed is taken when the configuration has none. -/
def ofConfig (config : Config) (features : FeatureRegistry γ) (template : SelectorTemplate)
    (spareSeed : UInt32) : StyleCompiler γ where
  config := config
  queries := { settings := ⟨config.table, features, config.mediaFirst⟩ }
  registry := { seed := config.seed.getD spareSeed, template }

def compileKey (c : StyleCompiler γ) (key : Text) : Text × StyleCompiler γ :=
  let (query, queries) := c.queries.compile key none
  (query, { c with queries })

def pushRule (c : StyleCompiler γ) (key style : Text) (context : Option γ) :
    PushedRule × StyleCompiler γ :=
  let (mediaQuery, queries) := c.queries.compile key context
  let canonical := Declarations.canonical style
  let (fp, registry) := c.registry.push mediaQuery canonical
  let rule : PushedRule :=
    { key, mediaQuery, givenStyle := style, style := canonical, fingerprint := fp,
      selector := registry.selector fp }
  (rule, { c with queries, registry })

def push (c : StyleCompiler γ) (context : Option γ) :
    StyleMap → List PushedRule × StyleCompiler γ
  | [] => ([], c)
  | (key, .string style) :: r =>
    let (rule, c) := c.pushRule key style context
    let (rules, c) := c.push context r
    (rule :: rules, c)
  | _ :: r => c.push context r

/-- Enters the map that a JSON text spells; a text that spells none changes nothing. -/
def pushJson (c : StyleCompiler γ) (json : Text) : List PushedRule × StyleCompiler γ :=
  match StyleMap.read? json with
  | some styles => c.push none styles
  | none => ([], c)

def stylesheet (c : StyleCompiler γ) : Text :=
  c.registry.stylesheet

def seed (c : StyleCompiler γ) : UInt32 :=
  c.registry.seed

def table (c : StyleCompiler γ) : BreakpointTable :=
  c.queries.settings.table

end StyleCompiler

end ResponsiveStyles
