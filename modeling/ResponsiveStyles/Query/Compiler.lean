import ResponsiveStyles.Query.Feature
import ResponsiveStyles.Query.Key
import ResponsiveStyles.Query.Resolution

/-!
# Media queries from keys

Every fragment of a branch changes the descriptor of the branch, and the branch is the text of the
last descriptor. A compiler keeps the media query of every key it has compiled. The key alone decides,
so that the first context counts for a key whose features look at the context.
-/
namespace ResponsiveStyles

variable {γ : Type}

structure QuerySettings (γ : Type) where
  table : BreakpointTable
  features : FeatureRegistry γ := []
  /-- Whether a branch begins with the media type of all devices. -/
  mediaFirst : Bool := true

namespace QuerySettings

def start (s : QuerySettings γ) : Descriptor :=
  if s.mediaFirst then Descriptor.setMedia {} "all".toList else {}

/-- The descriptor after a fragment that is not the media type of the branch. -/
def read (s : QuerySettings γ) (key : Text) (context : Option γ) (d : Descriptor)
    (fragment : Text) : Descriptor :=
  if QueryKey.isOrientation fragment then d.set "orientation".toList fragment
  else if s.table.isToken fragment then (s.table.resolve d fragment).2
  else
    match QueryKey.clause? fragment with
    | some clause => d.setVerbatim fragment clause
    | none => (s.features.call? d fragment key context).getD d

def describe (s : QuerySettings γ) (key : Text) (context : Option γ) (fragments : List Text) :
    Descriptor :=
  match fragments with
  | [] => s.start
  | first :: rest =>
    let d :=
      if QueryKey.isMediaType first then s.start.setMedia first
      else s.read key context s.start first
    rest.foldl (s.read key context) d

def branch (s : QuerySettings γ) (key : Text) (context : Option γ) (branch : Text) : Text :=
  (s.describe key context (QueryKey.fragments branch)).render

def compile (s : QuerySettings γ) (key : Text) (context : Option γ) : Text :=
  "@media ".toList ++
    ", ".toList.intercalate ((QueryKey.branches key).map (s.branch key context))

end QuerySettings

structure QueryCompiler (γ : Type) where
  settings : QuerySettings γ
  cache : OrderedMap Text Text := []

namespace QueryCompiler

/-- The media query of a key, remembered from the first time on. -/
def compile (c : QueryCompiler γ) (key : Text) (context : Option γ) : Text × QueryCompiler γ :=
  match c.cache.get? key with
  | some query => (query, c)
  | none =>
    let query := c.settings.compile key context
    (query, { c with cache := c.cache.insert key query })

def isCached (c : QueryCompiler γ) (key : Text) : Bool :=
  c.cache.contains key

def cacheSize (c : QueryCompiler γ) : Nat :=
  c.cache.length

end QueryCompiler

end ResponsiveStyles
