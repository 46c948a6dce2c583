import ResponsiveStyles.Text.Blank
import ResponsiveStyles.Text.Word

/-!
# Query keys

A key such as `xs-to-md@,@screen@sm-up` has branches between the separators `@,@`, and a branch has
fragments between at signs. The first fragment may be a media type; others are orientations, tokens,
clauses in parentheses, or calls of features.
-/
namespace ResponsiveStyles.QueryKey

def branches : Text → List Text
  | [] => [[]]
  | '@' :: ',' :: '@' :: r => [] :: branches r
  | c :: r => (branches r).modifyHead (c :: ·)

/-- The fragments of a branch without white space around them; blank ones are left out. -/
def fragments (branch : Text) : List Text :=
  ((branch.splitOn '@').map Text.trim).filter (· ≠ [])

def mediaWords : List Text :=
  ["screen".toList, "all".toList, "print".toList, "speech".toList]

def isMediaType (fragment : Text) : Bool :=
  !fragment.contains '(' && mediaWords.any fun w => Text.holdsWord w fragment

def isOrientation (fragment : Text) : Bool :=
  fragment = "landscape".toList || fragment = "portrait".toList

def clause? : Text → Option Text
  | '(' :: r => [')'].isSuffixOf? r
  | _ => none

theorem branches_ne_nil (key : Text) : branches key ≠ [] := by
  fun_induction branches key <;> simp_all [List.modifyHead_eq_nil_iff]

end ResponsiveStyles.QueryKey
