import ResponsiveStyles.Text.Basic

/-!
# Blank characters

The characters with the property White_Space, and texts stripped of them at their ends. A zero width
space and a byte order mark are not blank.
-/
namespace ResponsiveStyles.Text

/-- White_Space: tabs, line ends, the space and the spaces of other widths. -/
def isBlank (c : Char) : Bool :=
  let n := c.toNat
  (0x09 ≤ n && n ≤ 0x0D) || n == 0x20 || n == 0x85 || n == 0xA0 || n == 0x1680 ||
    (0x2000 ≤ n && n ≤ 0x200A) || n == 0x2028 || n == 0x2029 || n == 0x202F || n == 0x205F ||
    n == 0x3000

def trimStart (t : Text) : Text :=
  t.dropWhile isBlank

def trimEnd (t : Text) : Text :=
  (t.reverse.dropWhile isBlank).reverse

def trim (t : Text) : Text :=
  trimEnd (trimStart t)

def isAllBlank (t : Text) : Bool :=
  t.all isBlank

theorem dropWhile_isBlank_eq_nil_iff {t : Text} : t.dropWhile isBlank = [] ↔ isAllBlank t := by
  induction t with
  | nil => simp [isAllBlank]
  | cons c r ih => by_cases h : isBlank c <;> simp_all [isAllBlank]

theorem trim_eq_nil_iff {t : Text} : trim t = [] ↔ isAllBlank t := by
  have hend (s : Text) : trimEnd s = [] ↔ isAllBlank s := by
    rw [trimEnd, List.reverse_eq_nil_iff, dropWhile_isBlank_eq_nil_iff]
    simp [isAllBlank]
  rw [trim, hend, trimStart]
  constructor
  · intro h
    rw [← List.takeWhile_append_dropWhile (p := isBlank) (l := t), isAllBlank, List.all_append]
    simpa [isAllBlank] using h
  · intro h
    rw [dropWhile_isBlank_eq_nil_iff.2 h]
    rfl

theorem trim_append {t b : Text} {c d : Char} (hc : t.head? = some c) (hd : t.getLast? = some d)
    (hbc : ¬ isBlank c) (hbd : ¬ isBlank d) (hb : isAllBlank b) : trim (t ++ b) = t := by
  obtain ⟨s, rfl⟩ := List.getLast?_eq_some_iff.1 hd
  have hstart : trimStart (s ++ [d] ++ b) = s ++ [d] ++ b := by
    cases s with
    | nil => simp [trimStart, hbd]
    | cons e s =>
      obtain rfl : e = c := Option.some.inj hc
      simp [trimStart, hbc]
  have hblank : ∀ e ∈ b.reverse, isBlank e := by simpa [isAllBlank] using hb
  rw [trim, hstart, trimEnd, List.reverse_append, List.dropWhile_append_of_pos hblank]
  simp [hbd]

end ResponsiveStyles.Text
