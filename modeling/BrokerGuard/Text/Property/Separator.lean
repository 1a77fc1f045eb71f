/-!
# Separators and controls

First and last scalar value of each run of characters of a general category, in version 16 of the Unicode standard and in
ascending order.
-/
namespace BrokerGuard
namespace Text
namespace Property

/-- The runs of the spaces: general category Zs. -/
def spaceSeparatorRuns : List (Nat × Nat) :=
  [(0x20, 0x20), (0xA0, 0xA0), (0x1680, 0x1680), (0x2000, 0x200A), (0x202F, 0x202F), (0x205F, 0x205F),
   (0x3000, 0x3000)]

/-- The runs of the line separators: general category Zl. -/
def lineSeparatorRuns : List (Nat × Nat) :=
  [(0x2028, 0x2028)]

/-- The runs of the paragraph separators: general category Zp. -/
def paragraphSeparatorRuns : List (Nat × Nat) :=
  [(0x2029, 0x2029)]

/-- The runs of the control characters: general category Cc. -/
def controlRuns : List (Nat × Nat) :=
  [(0x0, 0x1F), (0x7F, 0x9F)]

/-- The runs of the format characters: general category Cf. -/
def formatRuns : List (Nat × Nat) :=
  [(0xAD, 0xAD), (0x600, 0x605), (0x61C, 0x61C), (0x6DD, 0x6DD), (0x70F, 0x70F), (0x890, 0x891), (0x8E2, 0x8E2),
   (0x180E, 0x180E), (0x200B, 0x200F), (0x202A, 0x202E), (0x2060, 0x2064), (0x2066, 0x206F), (0xFEFF, 0xFEFF),
   (0xFFF9, 0xFFFB), (0x110BD, 0x110BD), (0x110CD, 0x110CD), (0x13430, 0x1343F), (0x1BCA0, 0x1BCA3),
   (0x1D173, 0x1D17A), (0xE0001, 0xE0001), (0xE0020, 0xE007F)]

/-- The runs of the private characters: general category Co. -/
def privateUseRuns : List (Nat × Nat) :=
  [(0xE000, 0xF8FF), (0xF0000, 0xFFFFD), (0x100000, 0x10FFFD)]

end Property
end Text
end BrokerGuard
