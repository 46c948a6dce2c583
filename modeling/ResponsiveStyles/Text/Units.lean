import ResponsiveStyles.Text.Basic

/-!
# UTF-16 units

A character below U+10000 is one unit; any other is two, which carry the upper and the lower ten
bits of its offset from U+10000.
-/
namespace ResponsiveStyles.Text

def unitsOf (c : Char) : List UInt16 :=
  if c.toNat < 0x10000 then
    [c.toNat.toUInt16]
  else
    let offset := c.toNat - 0x10000
    [(0xD800 + offset / 0x400).toUInt16, (0xDC00 + offset % 0x400).toUInt16]

def units (t : Text) : List UInt16 :=
  t.flatMap unitsOf

end ResponsiveStyles.Text
