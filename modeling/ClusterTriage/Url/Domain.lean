import ClusterTriage.Text.GraphemeExtend
import ClusterTriage.Text.Printable
import ClusterTriage.Text.Substitution
import ClusterTriage.Url.Domain.Mapping
import ClusterTriage.Url.Percent
import ClusterTriage.Url.Punycode

/-!
# Domain names

A domain name is brought into one form: lowercase, and each label beyond ASCII in Punycode behind a
mark. A label that bears the mark already has to be exactly what writing would make of it.
-/

namespace ClusterTriage
namespace Url
namespace Domain

def mark : List Char := "xn--".toList

def isAscii (cs : List Char) : Bool := cs.all (·.toNat < 0x80)

/-- The characters of ASCII that no name may hold. -/
def isForbidden (c : Char) : Bool :=
  c.toNat ≤ 0x20 || c.toNat == 0x7F || "%#/:<>?@[\\]^|".toList.contains c

/-- Whether a character beyond ASCII may stand in a label. -/
def isAllowed (c : Char) : Bool := c.toNat < 0x80 || (Text.isPrintable c && c != '\uFFFD')

/-- Whether a label beyond ASCII is fit for a name: no mark stands in front. -/
def isFit (cs : List Char) : Bool :=
  cs.all isAllowed && !(cs.head?.map Text.extendsGrapheme).getD false

/-- The ASCII form of a label in which every character stands for itself. -/
def label? (cs : List Char) : Option (List Char) :=
  if mark.isPrefixOf cs then do
    let plain ← Punycode.decode? (cs.drop mark.length)
    if !isAscii plain && isFit plain && normalize plain == plain &&
        mark ++ Punycode.encode plain == cs then some cs
    else none
  else if isAscii cs then some cs
  else if isFit cs then some (mark ++ Punycode.encode cs)
  else none

/-- The ASCII form of a name given in bytes, unless it is no name. -/
def toAscii? (bytes : List UInt8) : Option (List Char) :=
  match Text.Utf8.decode bytes with
  | .error _ => none
  | .ok name => do
    let labels ← (Text.splitOnChar '.' (normalize name.toList)).mapM label?
    let ascii := List.intercalate ['.'] labels
    if ascii.any isForbidden then none else some ascii

end Domain
end Url
end ClusterTriage
