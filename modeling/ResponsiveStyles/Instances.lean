import ResponsiveStyles.Style.Compiler

/-!
# Compilers side by side

Compilers for several sets of breakpoints are told apart by the key of the set and the element it is
read from. They stand in the order in which they were made, and an index gives the place of each. The
first configuration for such a pair counts; later ones find its compiler.
-/
namespace ResponsiveStyles

variable {γ : Type}

structure InstanceKey where
  breakpointKey : Text
  breakpointSelector : Text
deriving DecidableEq, Repr

namespace InstanceKey

def ofConfig (config : Config) : InstanceKey :=
  ⟨config.breakpointKey, config.breakpointSelector⟩

def shown (k : InstanceKey) : Text :=
  k.breakpointKey ++ '_' :: k.breakpointSelector

end InstanceKey

structure InstanceRegistry (γ : Type) where
  /-- The compilers in the order in which they were made. -/
  compilers : List (StyleCompiler γ) := []
  /-- The place of the compiler of each pair. -/
  index : OrderedMap InstanceKey Nat := []

namespace InstanceRegistry

/-- The place of the compiler for the pair of a configuration, which is made at the end unless there is
one. -/
def ensure (r : InstanceRegistry γ) (config : Config) (features : FeatureRegistry γ)
    (template : SelectorTemplate) (spareSeed : UInt32) : Nat × InstanceRegistry γ :=
  match r.index.get? (.ofConfig config) with
  | some place => (place, r)
  | none =>
    (r.compilers.length,
      { compilers := r.compilers ++ [.ofConfig config features template spareSeed]
        index := r.index.insert (.ofConfig config) r.compilers.length })

def get? (r : InstanceRegistry γ) (key : InstanceKey) : Option (StyleCompiler γ) :=
  match r.index.get? key with
  | some place => r.compilers[place]?
  | none => none

def updateAt (r : InstanceRegistry γ) (place : Nat)
    (f : StyleCompiler γ → StyleCompiler γ) : InstanceRegistry γ :=
  { r with compilers := r.compilers.modify place f }

def update (r : InstanceRegistry γ) (key : InstanceKey)
    (f : StyleCompiler γ → StyleCompiler γ) : InstanceRegistry γ :=
  match r.index.get? key with
  | some place => r.updateAt place f
  | none => r

def size (r : InstanceRegistry γ) : Nat :=
  r.compilers.length

def isEmpty (r : InstanceRegistry γ) : Bool :=
  r.compilers.isEmpty

def entries (r : InstanceRegistry γ) : List (InstanceKey × StyleCompiler γ) :=
  r.compilers.map fun c => (.ofConfig c.config, c)

end InstanceRegistry

end ResponsiveStyles
