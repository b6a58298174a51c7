import ClusterTriage.Encoding.Hex
import ClusterTriage.Text.GraphemeExtend
import ClusterTriage.Text.Printable

/-!
# Quoted text

Diagnostic messages show a text in quotes with everything escaped that could not be seen: control
characters, unprintable characters, and marks that would cling to the character before them.
-/

namespace ClusterTriage
namespace Text

def quotedChar (c : Char) : List Char :=
  if c = '\x00' then ['\\', '0']
  else if c = '\t' then ['\\', 't']
  else if c = '\r' then ['\\', 'r']
  else if c = '\n' then ['\\', 'n']
  else if c = '"' then ['\\', '"']
  else if c = '\\' then ['\\', '\\']
  else if extendsGrapheme c || !isPrintable c then
    ['\\', 'u', '\x7b'] ++ (Encoding.Hex.ofNat c.toNat).toList ++ ['\x7d']
  else [c]

def quoted (s : String) : String :=
  String.ofList ('"' :: s.toList.flatMap quotedChar ++ ['"'])

/-- An optional text, as `Some` of its quoted form or `None`. -/
def quotedOption : Option String → String
  | some s => "Some(" ++ quoted s ++ ")"
  | none => "None"

end Text
end ClusterTriage
