import ResponsiveStyles.OrderedMap
import ResponsiveStyles.Text.Basic

/-!
# Descriptors

A descriptor is what one branch of a key says: media features with their values, in the order in which
they were first mentioned. The media type is one of them and is written first. A branch that could not
be resolved keeps nothing else.
-/
namespace ResponsiveStyles

inductive FeatureValue where
  /-- Written after the name. -/
  | text (t : Text)
  /-- The name alone when it holds, and nothing otherwise. -/
  | flag (on : Bool)
  /-- A whole clause, written without a name. -/
  | verbatim (clause : Text)
deriving DecidableEq, Repr

/-- Media features in the order of their first mention. -/
structure Descriptor where
  entries : OrderedMap Text FeatureValue := []
  /-- Whether some part of the branch could not be resolved. -/
  unresolved : Bool := false
deriving DecidableEq, Repr

namespace Descriptor

def mediaKey : Text := "media".toList

/-- The name under which the whole clause of a slot is kept. -/
def slotKey (slot : Text) : Text := ':' :: slot

def get? (d : Descriptor) (key : Text) : Option FeatureValue :=
  d.entries.get? key

def insert (d : Descriptor) (key : Text) (value : FeatureValue) : Descriptor :=
  { d with entries := d.entries.insert key value }

def set (d : Descriptor) (key value : Text) : Descriptor :=
  d.insert key (.text value)

def setFlag (d : Descriptor) (key : Text) (on : Bool) : Descriptor :=
  d.insert key (.flag on)

def setVerbatim (d : Descriptor) (slot clause : Text) : Descriptor :=
  d.insert (slotKey slot) (.verbatim clause)

def setMedia (d : Descriptor) (media : Text) : Descriptor :=
  d.set mediaKey media

def erase (d : Descriptor) (key : Text) : Descriptor :=
  { d with entries := d.entries.erase key }

/-- The value of a key, with the descriptor that its entry was taken from. -/
def remove (d : Descriptor) (key : Text) : Option FeatureValue × Descriptor :=
  match d.entries.findIdx? fun p => p.1 = key with
  | some place =>
    ((d.entries[place]?).map Prod.snd, { d with entries := d.entries.eraseIdx place })
  | none => (none, d)

def size (d : Descriptor) : Nat :=
  d.entries.length

def isEmpty (d : Descriptor) : Bool :=
  d.entries.isEmpty

def markUnresolved (d : Descriptor) : Descriptor :=
  { d with unresolved := true }

def media? (d : Descriptor) : Option Text :=
  match d.get? mediaKey with
  | some (.text media) => some media
  | _ => none

/-- What a feature contributes to the query. -/
def clause? (key : Text) : FeatureValue → Option Text
  | .flag true => some ('(' :: (key ++ [')']))
  | .flag false => none
  | .text t => some ('(' :: (key ++ ": ".toList ++ t ++ [')']))
  | .verbatim clause => some ('(' :: (clause ++ [')']))

def clauses (d : Descriptor) : List Text :=
  if d.unresolved then []
  else (d.entries.filter fun p => p.1 ≠ mediaKey).filterMap fun p => clause? p.1 p.2

def mediaPart (d : Descriptor) : List Text :=
  (d.media?.filter (· ≠ [])).toList

def render (d : Descriptor) : Text :=
  " and ".toList.intercalate (d.mediaPart ++ d.clauses)

theorem get?_insert (d : Descriptor) (key key' : Text) (value : FeatureValue) :
    (d.insert key value).get? key' = if key' = key then some value else d.get? key' :=
  OrderedMap.get?_insert key key' value d.entries

theorem remove_eq (d : Descriptor) (key : Text) : d.remove key = (d.get? key, d.erase key) := by
  rw [remove]
  split
  · rename_i place hplace
    obtain ⟨hvalue, hrest⟩ := OrderedMap.of_findIdx?_eq_some hplace
    rw [hvalue, hrest]
    rfl
  · rename_i hplace
    obtain ⟨hvalue, hrest⟩ := OrderedMap.of_findIdx?_eq_none hplace
    rw [get?, erase, hvalue, hrest]

theorem render_of_unresolved {d : Descriptor} (h : d.unresolved) :
    d.render = (d.media?).getD [] := by
  unfold render mediaPart clauses
  cases d.media? with
  | none => simp [h, List.intercalate]
  | some m => by_cases hm : m = [] <;> simp [h, hm, Option.filter, List.intercalate]

end Descriptor

end ResponsiveStyles
