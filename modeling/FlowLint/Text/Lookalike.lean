/-!
# Delimiter lookalikes

Characters whose compatibility form holds one of the characters that delimit the parts of a URL.
-/

namespace FlowLint.Text

/-- The characters beyond ASCII whose compatibility composition contains a slash, a question mark, a
number sign, an at sign or a colon. -/
def delimiterLookalikes : List Nat := [
  0x2047, 0x2048, 0x2049, 0x2100, 0x2101, 0x2105, 0x2106, 0x2A74,
  0xFE13, 0xFE16, 0xFE55, 0xFE56, 0xFE5F, 0xFE6B, 0xFF03, 0xFF0F,
  0xFF1A, 0xFF1F, 0xFF20]

/-- The character would turn into, or into a text with, a URL delimiter under compatibility
composition. -/
def isDelimiterLookalike (c : Char) : Bool :=
  delimiterLookalikes.contains c.toNat

end FlowLint.Text
