import ResponsiveStyles.Breakpoint.Basic
import ResponsiveStyles.Text.Blank

/-!
# Breakpoint tables

A table is a list of breakpoints with distinct names that are not blank, together with the options
that say how tokens become widths. `BreakpointTable.ofEntries?` accepts exactly the lists that are not
empty and hold no other fault, and names the first fault otherwise.
-/
namespace ResponsiveStyles

structure RangeOptions where
  /-- What is taken from the bound that a token leaves out. -/
  epsilon : Float := 0.02
  /-- Whether a token is written as one range of widths, not as least and greatest width. -/
  rangeContext : Bool := false
  suffixes : Bool := true

structure BreakpointTable where
  entries : List Breakpoint
  options : RangeOptions
  nonempty : entries ≠ []
  named : ∀ b ∈ entries, Text.isAllBlank b.name = false
  distinct : (entries.map Breakpoint.name).Nodup

namespace BreakpointTable

/-- The first fault of a list that stands after the names seen. -/
def firstFault? (seen : List Text) (position : Nat) : List Breakpoint → Option BreakpointError
  | [] => none
  | b :: r =>
    if Text.isAllBlank b.name then some (.blankName position)
    else if b.name ∈ seen then some (.duplicateName b.name)
    else firstFault? (b.name :: seen) (position + 1) r

theorem firstFault?_eq_none_iff {seen : List Text} {position : Nat} {bs : List Breakpoint} :
    firstFault? seen position bs = none ↔
      (∀ b ∈ bs, Text.isAllBlank b.name = false) ∧ (bs.map Breakpoint.name).Nodup ∧
        ∀ b ∈ bs, b.name ∉ seen := by
  induction bs generalizing seen position with
  | nil => simp [firstFault?]
  | cons b r ih =>
    simp only [firstFault?]
    split
    · simp_all
    · split
      · simp_all
      · rw [ih]
        simp only [List.mem_cons, List.map_cons, List.nodup_cons, List.mem_map, not_or]
        grind

def ofEntries? (entries : List Breakpoint) (options : RangeOptions) :
    Except BreakpointError BreakpointTable :=
  if nonempty : entries = [] then .error .empty
  else
    match h : firstFault? [] 0 entries with
    | some fault => .error fault
    | none =>
      have usable := firstFault?_eq_none_iff.1 h
      .ok ⟨entries, options, nonempty, usable.1, usable.2.1⟩

def fallback (options : RangeOptions) : BreakpointTable where
  entries := [.fallback]
  options := options
  nonempty := by simp
  named := by decide
  distinct := by simp

/-- The table of a list, or the fallback when the list cannot be used. -/
def ofEntries (entries : List Breakpoint) (options : RangeOptions) : BreakpointTable :=
  match ofEntries? entries options with
  | .ok t => t
  | .error _ => fallback options

def names (t : BreakpointTable) : List Text :=
  t.entries.map Breakpoint.name

def isName (t : BreakpointTable) (name : Text) : Bool :=
  t.names.contains name

def index? (t : BreakpointTable) (name : Text) : Option Nat :=
  t.names.idxOf? name

def next? (t : BreakpointTable) (name : Text) : Option Breakpoint :=
  (t.index? name).bind fun i => t.entries[i + 1]?

def length? (t : BreakpointTable) (name : Text) : Option Text :=
  (t.entries.find? fun b => b.name = name).map Breakpoint.length

def isFallback (t : BreakpointTable) : Bool :=
  t.entries = [.fallback]

theorem ofEntries?_eq_ok_iff {entries : List Breakpoint} {options : RangeOptions} :
    (∃ t, ofEntries? entries options = .ok t) ↔
      entries ≠ [] ∧ (∀ b ∈ entries, Text.isAllBlank b.name = false) ∧
        (entries.map Breakpoint.name).Nodup := by
  unfold ofEntries?
  split
  · simp_all
  · split
    · rename_i fault h
      have hne : firstFault? [] 0 entries ≠ none := by simp [h]
      rw [ne_eq, firstFault?_eq_none_iff] at hne
      simp_all
    · rename_i h
      have := firstFault?_eq_none_iff.1 h
      simp_all

end BreakpointTable

end ResponsiveStyles
