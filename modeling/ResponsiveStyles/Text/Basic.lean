/-!
# Text

Keys, fragments and stylesheets are cut apart and put together at single characters. A text is
therefore held as the list of its characters.
-/
namespace ResponsiveStyles

/-- A text is the list of its characters. -/
abbrev Text := List Char

namespace Text

def atMost : Text → Text → Bool
  | [], _ => true
  | _ :: _, [] => false
  | c :: r, d :: s => c.toNat < d.toNat || (c = d && atMost r s)

def holds (part : Text) : Text → Bool
  | [] => part.isEmpty
  | c :: r => part.isPrefixOf (c :: r) || holds part r

theorem isPrefixOf?_nil (t : Text) : List.isPrefixOf? [] t = some t := rfl

theorem isPrefixOf?_cons_nil (c : Char) (r : Text) : (c :: r).isPrefixOf? [] = none := rfl

theorem isPrefixOf?_cons_cons (c d : Char) (r s : Text) :
    (c :: r).isPrefixOf? (d :: s) = if c == d then r.isPrefixOf? s else none := rfl

theorem length_le_of_isPrefixOf? {part t r : Text} (h : part.isPrefixOf? t = some r) :
    r.length ≤ t.length := by
  induction part generalizing t with
  | nil =>
    obtain rfl := Option.some.inj h
    exact Nat.le_refl _
  | cons c part ih =>
    cases t with
    | nil => simp [isPrefixOf?_cons_nil] at h
    | cons d t =>
      rw [isPrefixOf?_cons_cons] at h
      split at h
      · exact Nat.le_succ_of_le (ih h)
      · simp at h

theorem takeWhile_append_of_head {p : Char → Bool} {u r : Text} (hu : ∀ c ∈ u, p c)
    (hr : ∀ c ∈ r.head?, ¬ p c) :
    (u ++ r).takeWhile p = u ∧ (u ++ r).dropWhile p = r := by
  rw [List.takeWhile_append_of_pos hu, List.dropWhile_append_of_pos hu]
  cases r with
  | nil => simp
  | cons c r =>
    have hc := hr c rfl
    simp [hc]

theorem not_of_mem_head?_dropWhile {p : Char → Bool} {t : Text} :
    ∀ c ∈ (t.dropWhile p).head?, ¬ p c := by
  intro c hc
  have hhead := List.head?_dropWhile_not p t
  rw [Option.mem_def.1 hc] at hhead
  simpa using hhead

def ofNat (n : Nat) : Text :=
  Nat.toDigits 10 n

def ofInt : Int → Text
  | .ofNat n => ofNat n
  | .negSucc n => '-' :: ofNat (n + 1)

end Text

end ResponsiveStyles
