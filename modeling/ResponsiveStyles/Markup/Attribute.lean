import ResponsiveStyles.Text.Basic

/-!
# Style attributes in markup

A style attribute holds a JSON object between single quotes. In a line it reaches from its name to the
last closing brace that a single quote follows; markup is cut into such attributes and the text between
them.
-/
namespace ResponsiveStyles.Markup

def attributeStart : Text := "data-rsa-style='".toList

inductive Piece where
  | text (t : Text)
  /-- A style attribute with the text between its quotes. -/
  | attribute (json : Text)
deriving DecidableEq, Repr

def Piece.source : Piece → Text
  | .text t => t
  | .attribute json => attributeStart ++ json ++ ['\'']

/-- Cuts a line at the last closing brace that a single quote follows: what stands before the brace,
and what stands after the quote. -/
def cutAtClose? : Text → Option (Text × Text)
  | [] => none
  | c :: r =>
    match cutAtClose? r with
    | some (before, after) => some (c :: before, after)
    | none =>
      match c, r with
      | '\x7d', '\'' :: after => some ([], after)
      | _, _ => none

/-- The value of the attribute at the start of a text, and what follows the attribute. -/
def attribute? (t : Text) : Option (Text × Text) :=
  match attributeStart.isPrefixOf? t with
  | some ('\x7b' :: r) =>
    match cutAtClose? (r.takeWhile (· != '\n')) with
    | some (before, after) =>
      some ('\x7b' :: (before ++ ['\x7d']), after ++ r.dropWhile (· != '\n'))
    | none => none
  | _ => none

theorem eq_of_cutAtClose? {line before after : Text}
    (h : cutAtClose? line = some (before, after)) :
    line = before ++ '\x7d' :: '\'' :: after := by
  induction line generalizing before after with
  | nil => simp [cutAtClose?] at h
  | cons c r ih =>
    simp only [cutAtClose?] at h
    split at h
    · rename_i b a hr
      simp only [Option.some.injEq, Prod.mk.injEq] at h
      rw [ih hr, ← h.1, ← h.2]
      rfl
    · split at h
      · simp only [Option.some.injEq, Prod.mk.injEq] at h
        rw [← h.1, ← h.2]
        rfl
      · simp at h

theorem length_of_attribute? {t json rest : Text} (h : attribute? t = some (json, rest)) :
    rest.length < t.length := by
  simp only [attribute?] at h
  split at h
  · rename_i r hp
    split at h
    · rename_i before after hc
      obtain ⟨-, rfl⟩ := Prod.mk.inj (Option.some.inj h)
      have ht := Text.length_le_of_isPrefixOf? hp
      have hr := List.takeWhile_append_dropWhile (p := (· != '\n')) (l := r)
      rw [eq_of_cutAtClose? hc] at hr
      have hlength := congrArg List.length hr
      simp only [List.length_append, List.length_cons] at *
      omega
    · simp at h
  · simp at h

def consChar (c : Char) : List Piece → List Piece
  | .text t :: r => .text (c :: t) :: r
  | ps => .text [c] :: ps

def pieces (t : Text) : List Piece :=
  match t with
  | [] => []
  | c :: r =>
    match h : attribute? (c :: r) with
    | some (json, rest) =>
      have := length_of_attribute? h
      .attribute json :: pieces rest
    | none => consChar c (pieces r)
termination_by t.length
decreasing_by all_goals (simp only [List.length_cons] at *; omega)

end ResponsiveStyles.Markup
