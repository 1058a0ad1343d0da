import Courier.Host.Admitted
import Courier.Text.Mark

/-!
The direction of writing.

Every code point that a label may hold belongs to a class of directions, as of Unicode 14. The
tables below tell the classes apart among those code points only, so that their ranges may extend
over others.
-/

namespace Courier

/-- The classes of directions. -/
inductive Direction
  | leftToRight
  | rightToLeft
  | arabicLetter
  | arabicNumber
  | number
  | separator
  | neutral
  | boundary
  | mark
deriving DecidableEq

namespace Direction

/-- The ranges of letters from right to left. -/
def rightToLeftRanges : List (Nat × Nat) := [
  (0x5D0, 0x5F4), (0x7C0, 0x7EA), (0x7F4, 0x7F5), (0x800, 0x815), (0x81A, 0x81A), (0x824, 0x824),
  (0x828, 0x828), (0x840, 0x858), (0x10800, 0x10939), (0x10980, 0x10A00), (0x10A10, 0x10A35),
  (0x10A60, 0x10AE4), (0x10B00, 0x10CF2), (0x10E80, 0x10EA9), (0x10EB0, 0x10EB1),
  (0x10F00, 0x10F27), (0x10F70, 0x10F81), (0x10FB0, 0x10FF6), (0x1E800, 0x1E8C4),
  (0x1E922, 0x1E943), (0x1E94B, 0x1E959)]

/-- The ranges of Arabic letters. -/
def arabicRanges : List (Nat × Nat) := [
  (0x620, 0x64A), (0x66E, 0x66F), (0x671, 0x6D5), (0x6E5, 0x6E6), (0x6EE, 0x6EF), (0x6FA, 0x710),
  (0x712, 0x72F), (0x74D, 0x7A5), (0x7B1, 0x7B1), (0x860, 0x88E), (0x8A0, 0x8C9), (0xFE73, 0xFE73),
  (0x10D00, 0x10D23), (0x10F30, 0x10F45)]

/-- The ranges of neutral code points. -/
def neutralRanges : List (Nat × Nat) := [
  (0xB7, 0xB7), (0x2B9, 0x2BA), (0x2C6, 0x2CF), (0x2EC, 0x2EC), (0x375, 0x375), (0x2E2F, 0x2E2F),
  (0x30FB, 0x30FB), (0xA67F, 0xA67F), (0xA717, 0xA71F), (0xA788, 0xA788)]

/-- The ranges of Arabic digits. -/
def arabicNumberRanges : List (Nat × Nat) := [
  (0x660, 0x669), (0x10D30, 0x10D39)]

/-- The ranges of other digits whose order is their own. -/
def numberRanges : List (Nat × Nat) := [
  (0x30, 0x39), (0x6F0, 0x6F9)]

/-- The marks that are written from left to right with their letters. -/
def leftToRightMarks : List Nat := [0xCBF, 0xCC6, 0x11A07, 0x11A08, 0x11C3F]

/-- The class of a code point of a label; those that are too recent have none. -/
def of? (c : CodePoint) : Option Direction :=
  if c.isRecent then none
  else if c.isIn numberRanges then some .number
  else if c = '-' then some .separator
  else if c.toNat = 0x200C ∨ c.toNat = 0x200D then some .boundary
  else if c.isIn neutralRanges then some .neutral
  else if c.isIn arabicNumberRanges then some .arabicNumber
  else if leftToRightMarks.contains c.toNat then some .leftToRight
  else if c.isNonspacing then some .mark
  else if c.isIn rightToLeftRanges then some .rightToLeft
  else if c.isIn arabicRanges then some .arabicLetter
  else some .leftToRight

end Direction

end Courier
