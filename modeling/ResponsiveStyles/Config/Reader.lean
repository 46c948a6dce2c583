import ResponsiveStyles.Error
import ResponsiveStyles.Yaml.Value

/-!
# Reading configurations

A configuration is a YAML mapping. Fields that are not known are passed over, a known one may stand
only once, and one that is missing keeps its default.
-/
namespace ResponsiveStyles.Config

def readBreakpoint? (d : Yaml.Document) (n : Yaml.Node) : Option Breakpoint :=
  match n.items? with
  | some [name, length] => do return ⟨← (d.resolve name).text?, ← (d.resolve length).text?⟩
  | _ => none

def readBreakpoints? (d : Yaml.Document) (n : Yaml.Node) : Option (List Breakpoint) :=
  n.items?.bind fun items => items.mapM fun item => readBreakpoint? d (d.resolve item)

inductive Field where
  | breakpointKey
  | breakpointSelector
  | breakpoints
  | definition
  | epsilon
  | mediaFirst
  | rangeContext
  | suffixes
  | seed
  | scopedStyle
  | dropAttributes
deriving DecidableEq, Repr

namespace Field

def all : List Field :=
  [.breakpointKey, .breakpointSelector, .breakpoints, .definition, .epsilon, .mediaFirst,
    .rangeContext, .suffixes, .seed, .scopedStyle, .dropAttributes]

def name : Field → Text
  | .breakpointKey => "breakpoint_key".toList
  | .breakpointSelector => "breakpoint_selector".toList
  | .breakpoints => "breakpoints".toList
  | .definition => "breakpoint_definition".toList
  | .epsilon => "min_max_subtract".toList
  | .mediaFirst => "always_prepend_mediatype".toList
  | .rangeContext => "use_mql4_range_context".toList
  | .suffixes => "legacy_suffix_grammar".toList
  | .seed => "seed".toList
  | .scopedStyle => "scoped_style_node".toList
  | .dropAttributes => "remove_data_attribute".toList

def ofName? (t : Text) : Option Field :=
  all.find? fun f => f.name = t

def read? (f : Field) (d : Yaml.Document) (n : Yaml.Node) (c : Config) : Option Config :=
  match f with
  | .breakpointKey => n.text?.map fun v => { c with breakpointKey := v }
  | .breakpointSelector => n.text?.map fun v => { c with breakpointSelector := v }
  | .breakpoints => (n.optional? (readBreakpoints? d)).map fun v => { c with breakpoints := v }
  | .definition => (n.optional? Yaml.Node.text?).map fun v => { c with definition := v }
  | .epsilon => n.float?.map fun v => { c with range := { c.range with epsilon := v } }
  | .mediaFirst => n.bool?.map fun v => { c with mediaFirst := v }
  | .rangeContext => n.bool?.map fun v => { c with range := { c.range with rangeContext := v } }
  | .suffixes => n.bool?.map fun v => { c with range := { c.range with suffixes := v } }
  | .seed => (n.optional? Yaml.Node.word?).map fun v => { c with seed := v }
  | .scopedStyle => n.bool?.map fun v => { c with scopedStyle := v }
  | .dropAttributes => n.bool?.map fun v => { c with dropAttributes := v }

end Field

def readMembers? (d : Yaml.Document) (c : Config) (seen : List Field) :
    List (Yaml.Node × Yaml.Node) → Option Config
  | [] => some c
  | (key, value) :: r => do
    match Field.ofName? (← (d.resolve key).text?) with
    | none => readMembers? d c seen r
    | some f =>
      if f ∈ seen then none
      else readMembers? d (← f.read? d (d.resolve value) c) (f :: seen) r

/-- The configuration that a text spells, whatever its values are. -/
def read? (t : Text) : Option Config :=
  match Yaml.Document.ofText? t with
  | none => none
  | some none => some {}
  | some (some d) => (d.resolve d.root).members?.bind (readMembers? d {} [])

def ofText (t : Text) : Except InputError Config :=
  match read? t with
  | none => .error .configText
  | some c =>
    match c.fault? with
    | some fault => .error (.config fault)
    | none => .ok c

end ResponsiveStyles.Config
