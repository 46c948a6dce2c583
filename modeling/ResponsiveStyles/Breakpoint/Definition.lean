import ResponsiveStyles.Breakpoint.Basic
import ResponsiveStyles.Json.Printer
import ResponsiveStyles.Json.Reader
import ResponsiveStyles.Text.Blank

/-!
# Breakpoint definitions

A definition is a JSON list of names with lengths. It stands in a stylesheet as the value of a custom
property, whose name ends in the key of the set.
-/
namespace ResponsiveStyles.Definition

def entryOf : Json.Value → Except BreakpointError Breakpoint
  | .array [.string name, .string length] => .ok ⟨name, length⟩
  | .array [.string name, .number length] => .ok ⟨name, length.write⟩
  | .array [.string name, other] => .error (.notALength other.kind name)
  | item => .error (.notAPair item.compact)

def parse (definition : Text) : Except BreakpointError (List Breakpoint) :=
  let trimmed := Text.trim definition
  if trimmed = [] then .error .empty
  else
    match Json.read? trimmed with
    | none => .error .notJson
    | some (.array items) => items.mapM entryOf
    | some other => .error (.notAList other.kind)

def property (key : Text) : Text :=
  "--breakpoints-".toList ++ key

/-- The value that a text declares at its start for a property, up to a semicolon or a closing brace,
and the rest of the text. -/
def declared? (property t : Text) : Option (Text × Text) :=
  match property.isPrefixOf? t with
  | none => none
  | some r =>
    match r.dropWhile Text.isBlank with
    | ':' :: r =>
      let isInside (c : Char) : Bool := c != ';' && c != '\x7d'
      some (r.takeWhile isInside, r.dropWhile isInside)
    | _ => none

theorem length_of_declared? {property t value rest : Text}
    (h : declared? property t = some (value, rest)) : rest.length < t.length := by
  simp only [declared?] at h
  split at h
  · simp at h
  · rename_i r hp
    split at h
    · rename_i r' hd
      have hr := (List.dropWhile_sublist Text.isBlank (l := r)).length_le
      simp only [Option.some.injEq, Prod.mk.injEq] at h
      have hs := (List.dropWhile_sublist (fun c : Char => c != ';' && c != '\x7d') (l := r')).length_le
      have ht := Text.length_le_of_isPrefixOf? hp
      rw [hd] at hr
      simp only [← h.2, List.length_cons] at *
      omega
    · simp at h

def values (property : Text) (css : Text) : List Text :=
  match css with
  | [] => []
  | c :: r =>
    match h : declared? property (c :: r) with
    | some (value, rest) =>
      have := length_of_declared? h
      value :: values property rest
    | none => values property r
termination_by css.length
decreasing_by all_goals (simp only [List.length_cons] at *; omega)

/-- The definition that a stylesheet holds for a key: the last value, unless it is blank. -/
def ofStylesheet? (css key : Text) : Option Text :=
  match (values (property key) css).getLast? with
  | none => none
  | some value =>
    let trimmed := Text.trim value
    if trimmed = [] then none else some trimmed

end ResponsiveStyles.Definition
