import ResponsiveStyles.Markup.Attribute
import ResponsiveStyles.Style.Compiler

/-!
# Annotated markup

Every element with a style attribute gains one marker for each rule of its style map, and the
stylesheet selects the elements by their markers.
-/
namespace ResponsiveStyles

variable {γ : Type}

structure MarkupAnnotator (γ : Type) where
  compiler : StyleCompiler γ

namespace MarkupAnnotator

def ofConfig (config : Config) (features : FeatureRegistry γ) (spareSeed : UInt32) :
    MarkupAnnotator γ :=
  ⟨.ofConfig config features .byAttribute spareSeed⟩

def replacement (drop : Bool) (source : Text) (rules : List PushedRule) : Text :=
  Text.trim ((if drop then [] else source) ++
    ' ' :: [' '].intercalate (rules.map fun rule => marker rule.fingerprint))

/-- Annotates one piece. An attribute that spells no style map stays as it is. -/
def annotatePiece (c : StyleCompiler γ) (drop : Bool) (piece : Markup.Piece) :
    Text × StyleCompiler γ :=
  match piece with
  | .text t => (t, c)
  | .attribute json =>
    match StyleMap.read? json with
    | none => (piece.source, c)
    | some styles =>
      let (rules, c) := c.push none styles
      (replacement drop piece.source rules, c)

def annotatePieces (c : StyleCompiler γ) (drop : Bool) :
    List Markup.Piece → Text × StyleCompiler γ
  | [] => ([], c)
  | p :: r =>
    let (t, c) := annotatePiece c drop p
    let (rest, c) := annotatePieces c drop r
    (t ++ rest, c)

def annotate (a : MarkupAnnotator γ) (html : Text) (drop : Bool) : Text × MarkupAnnotator γ :=
  let (t, c) :=
    annotatePieces a.compiler (drop || a.compiler.config.dropAttributes) (Markup.pieces html)
  (t, ⟨c⟩)

def styleElement (a : MarkupAnnotator γ) : Text :=
  "<style type=\"text/css\" id=\"rsa-stylesheet-".toList ++ Text.ofNat a.compiler.seed.toNat ++
    "\"".toList ++ (if a.compiler.config.scopedStyle then " scoped".toList else []) ++ ">\n".toList ++
    a.compiler.stylesheet ++ "\n</style>\n".toList

end MarkupAnnotator

end ResponsiveStyles
