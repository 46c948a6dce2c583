import ResponsiveStyles.Text.Blank
import ResponsiveStyles.Text.Pattern

/-!
# Declaration blocks

A block is a list of declarations between semicolons. Its canonical form does not depend on the order
of the declarations or on white space around semicolons and colons; a value is otherwise left as it
is, and no declaration is lost.
-/
namespace ResponsiveStyles.Declarations

def tighten (declaration : Text) : Text :=
  [':'].intercalate ((declaration.splitOn ':').map Text.trim)

/-- A colon with the white space directly around it. -/
def colonPattern : Pattern Empty :=
  .append (Pattern.perhaps (.many Text.isBlank))
    (.append (.one fun c => c = ':') (Pattern.perhaps (.many Text.isBlank)))

def ofBlock (block : Text) : List Text :=
  (((block.splitOn ';').map Text.trim).filter (· ≠ [])).map tighten

def sort (declarations : List Text) : List Text :=
  declarations.mergeSort Text.atMost

def canonical (block : Text) : Text :=
  [';'].intercalate (sort (ofBlock block))

theorem sort_perm (declarations : List Text) : (sort declarations).Perm declarations :=
  List.mergeSort_perm _ _

end ResponsiveStyles.Declarations
