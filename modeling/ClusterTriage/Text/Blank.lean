/-!
# Blank characters

White space in the sense of Unicode's `White_Space` property, and the trimming built on it.
-/

namespace ClusterTriage
namespace Text

/-- The characters with Unicode's `White_Space` property. -/
def isBlank (c : Char) : Bool :=
  let n := c.toNat
  (0x09 ≤ n && n ≤ 0x0D) || n == 0x20 || n == 0x85 || n == 0xA0 || n == 0x1680 ||
  (0x2000 ≤ n && n ≤ 0x200A) || n == 0x2028 || n == 0x2029 || n == 0x202F || n == 0x205F ||
  n == 0x3000

/-- The text without blanks at its end. -/
def trimEnd (s : List Char) : List Char := (s.reverse.dropWhile isBlank).reverse

/-- The text without blanks at either end. -/
def trim (s : List Char) : List Char := trimEnd (s.dropWhile isBlank)

def trimString (s : String) : String := String.ofList (trim s.toList)

def trimEndString (s : String) : String := String.ofList (trimEnd s.toList)

def isBlankString (s : String) : Bool := s.toList.all isBlank

end Text
end ClusterTriage
