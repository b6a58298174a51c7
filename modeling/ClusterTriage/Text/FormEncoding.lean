import ClusterTriage.Encoding.Hex
import ClusterTriage.Text.Utf8

/-!
# Form encoding

The form in which values stand in a query: letters, digits and four marks as they are, a blank as a
plus sign, every other byte in hexadecimal after a percent sign.
-/

namespace ClusterTriage
namespace Text

def isFormByte (b : UInt8) : Bool :=
  let n := b.toNat
  (0x30 ≤ n && n ≤ 0x39) || (0x41 ≤ n && n ≤ 0x5A) || (0x61 ≤ n && n ≤ 0x7A) ||
    n == 0x2A || n == 0x2D || n == 0x2E || n == 0x5F

/-- A byte after a percent sign, in uppercase digits. -/
def percentByte (b : UInt8) : List Char :=
  ['%', (Encoding.Hex.digit (b.toNat / 16)).toUpper, (Encoding.Hex.digit (b.toNat % 16)).toUpper]

/-- The form of one byte. -/
def formByte (b : UInt8) : List Char :=
  if isFormByte b then [Char.ofNat b.toNat] else if b = 0x20 then ['+'] else percentByte b

def formEncode (s : String) : String := String.ofList ((Utf8.encode s).flatMap formByte)

end Text
end ClusterTriage
