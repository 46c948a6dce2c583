import ResponsiveStyles.OrderedMap
import ResponsiveStyles.Style.Fingerprint
import ResponsiveStyles.Style.Selector

/-!
# Style registries

A registry holds rules in blocks, one block for each media query. A rule that comes again changes
nothing: the first declarations for a media query and a selector stay. Media queries, and the rules of
each, stand in the order in which they came, and an index gives the place of each.
-/
namespace ResponsiveStyles

structure StyleRule where
  mediaQuery : Text
  selector : Text
  declarations : Text
deriving DecidableEq, Repr

structure MediaBlock where
  mediaQuery : Text
  rules : List (Text × Text) := []
  /-- The place of each selector among the rules. -/
  places : OrderedMap Text Nat := []
deriving DecidableEq, Repr

def MediaBlock.insert (b : MediaBlock) (selector declarations : Text) : MediaBlock :=
  if b.places.contains selector then b
  else
    { b with
      rules := b.rules ++ [(selector, declarations)]
      places := b.places.insert selector b.rules.length }

structure StyleRegistry where
  seed : UInt32
  template : SelectorTemplate := .byClass
  blocks : List MediaBlock := []
  /-- The place of the block of each media query. -/
  index : OrderedMap Text Nat := []

namespace StyleRegistry

def fingerprint (r : StyleRegistry) (mediaQuery declarations : Text) : UInt64 :=
  ResponsiveStyles.fingerprint (mediaQuery ++ ':' :: declarations) r.seed

def selector (r : StyleRegistry) (fp : UInt64) : Text :=
  r.template.selector fp

/-- The place of the block of a media query, which is made at the end unless there is one. -/
def reserve (r : StyleRegistry) (mediaQuery : Text) : Nat × StyleRegistry :=
  match r.index.get? mediaQuery with
  | some place => (place, r)
  | none =>
    (r.blocks.length,
      { r with
        blocks := r.blocks ++ [{ mediaQuery }]
        index := r.index.insert mediaQuery r.blocks.length })

/-- Adds a rule, unless its selector has one, and gives the fingerprint of the rule. -/
def push (r : StyleRegistry) (mediaQuery declarations : Text) : UInt64 × StyleRegistry :=
  let fp := r.fingerprint mediaQuery declarations
  let selector := r.selector fp
  let (place, r) := r.reserve mediaQuery
  (fp, { r with blocks := r.blocks.modify place fun b => b.insert selector declarations })

def contains (r : StyleRegistry) (mediaQuery selector : Text) : Bool :=
  match r.index.get? mediaQuery with
  | some place => (r.blocks[place]?).any fun b => b.places.contains selector
  | none => false

def rules (r : StyleRegistry) : List StyleRule :=
  r.blocks.flatMap fun b =>
    b.rules.map fun (selector, declarations) => ⟨b.mediaQuery, selector, declarations⟩

def mediaQueries (r : StyleRegistry) : List Text :=
  r.blocks.map MediaBlock.mediaQuery

def size (r : StyleRegistry) : Nat :=
  (r.blocks.map fun b => b.rules.length).foldr (· + ·) 0

def isEmpty (r : StyleRegistry) : Bool :=
  r.blocks.isEmpty

def ruleLine (selector declarations : Text) : Text :=
  '\t' :: (selector ++ "\x7b ".toList ++ declarations ++ " \x7d".toList)

def blockLines (b : MediaBlock) : List Text :=
  (b.mediaQuery ++ ['\x7b']) :: (b.rules.map fun (selector, declarations) =>
    ruleLine selector declarations) ++ [['\x7d']]

def stylesheet (r : StyleRegistry) : Text :=
  ['\n'].intercalate (r.blocks.flatMap blockLines)

theorem length_rules (r : StyleRegistry) : r.rules.length = r.size := by
  simp only [rules, List.length_flatMap, List.length_map]
  rfl

@[simp] theorem seed_reserve (r : StyleRegistry) (mediaQuery : Text) :
    (r.reserve mediaQuery).2.seed = r.seed := by
  unfold reserve
  split <;> rfl

@[simp] theorem template_reserve (r : StyleRegistry) (mediaQuery : Text) :
    (r.reserve mediaQuery).2.template = r.template := by
  unfold reserve
  split <;> rfl

@[simp] theorem seed_push (r : StyleRegistry) (mediaQuery declarations : Text) :
    (r.push mediaQuery declarations).2.seed = r.seed :=
  r.seed_reserve mediaQuery

@[simp] theorem template_push (r : StyleRegistry) (mediaQuery declarations : Text) :
    (r.push mediaQuery declarations).2.template = r.template :=
  r.template_reserve mediaQuery

@[simp] theorem fst_push (r : StyleRegistry) (mediaQuery declarations : Text) :
    (r.push mediaQuery declarations).1 = r.fingerprint mediaQuery declarations := rfl

end StyleRegistry

end ResponsiveStyles
