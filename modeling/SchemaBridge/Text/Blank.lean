/-!
# White space

The characters with the Unicode property White_Space, which separate tokens in type texts and in
message texts.
-/

namespace SchemaBridge.Text

/-- Whether a character has the property White_Space: 25 code points in ten runs. -/
def isBlank (c : Char) : Bool :=
  (9 ≤ c.toNat && c.toNat ≤ 13) || c.toNat == 0x20 || c.toNat == 0x85 || c.toNat == 0xA0 ||
    c.toNat == 0x1680 || (0x2000 ≤ c.toNat && c.toNat ≤ 0x200A) ||
    c.toNat == 0x2028 || c.toNat == 0x2029 || c.toNat == 0x202F || c.toNat == 0x205F ||
    c.toNat == 0x3000

end SchemaBridge.Text
