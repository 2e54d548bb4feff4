/-!
# Ignorable characters

The ranges of code points with the Unicode property `Default_Ignorable_Code_Point`:
joiners, variation selectors and fillers, for which nothing is drawn. Most of them are
not printable or join the character before them; the Hangul fillers are letters, so
neither of the other two tables holds them, and quoted text would hide them.
-/

namespace ChatRouting.Text

/-- The ranges of code points with the property `Default_Ignorable_Code_Point`, in
increasing order. -/
def ignorableRanges : Array (Nat × Nat) :=
  #[(0xad, 0xad), (0x34f, 0x34f), (0x61c, 0x61c), (0x115f, 0x1160), (0x17b4, 0x17b5),
   (0x180b, 0x180f), (0x200b, 0x200f), (0x202a, 0x202e), (0x2060, 0x206f), (0x3164, 0x3164),
   (0xfe00, 0xfe0f), (0xfeff, 0xfeff), (0xffa0, 0xffa0), (0xfff0, 0xfff8), (0x1bca0, 0x1bca3),
   (0x1d173, 0x1d17a), (0xe0000, 0xe0fff)]

/-- Nothing is drawn for the character. -/
def isIgnorable (c : Char) : Bool :=
  ignorableRanges.any fun r => r.1 ≤ c.toNat && c.toNat ≤ r.2

end ChatRouting.Text
