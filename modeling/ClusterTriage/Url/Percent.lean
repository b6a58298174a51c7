import ClusterTriage.Text.FormEncoding

/-!
# Percent encoding

Each part of an address has its own set of characters that are written as bytes after percent signs.
Control characters and all characters beyond ASCII belong to every set. Reading undoes every such
form, wherever it stands.
-/

namespace ClusterTriage
namespace Url

/-- Whether a character is written as bytes in every part. -/
def isControl (c : Char) : Bool := c.toNat < 0x20 || 0x7F ≤ c.toNat

/-- The characters encoded in fragments. -/
def inFragment (c : Char) : Bool := isControl c || " \"<>`".toList.contains c

/-- The characters encoded in queries; one more in addresses of the usual schemes. -/
def inQuery (special : Bool) (c : Char) : Bool :=
  isControl c || " \"#<>".toList.contains c || (special && c == '\'')

def inPath (c : Char) : Bool := inFragment c || "#?\x7b\x7d".toList.contains c

def inUserInfo (c : Char) : Bool := inPath c || "/:;=@[\\]^|".toList.contains c

/-- A text with the characters of a set written as bytes. -/
def percentEncode (set : Char → Bool) (cs : List Char) : String :=
  String.ofList <| cs.flatMap fun c =>
    if set c then (Text.Utf8.encode (String.singleton c)).flatMap Text.percentByte else [c]

/-- Bytes with every written byte read; `skip` bytes of the one read last are left out. -/
def percentDecodeFrom (skip : Nat) : List UInt8 → List UInt8
  | [] => []
  | b :: rest =>
    match skip with
    | skip + 1 => percentDecodeFrom skip rest
    | 0 =>
      let digit (b : Option UInt8) : Option Nat :=
        b.bind fun b => Encoding.Hex.value? (Char.ofNat b.toNat)
      if b = 0x25 then
        match digit rest[0]?, digit rest[1]? with
        | some x, some y => UInt8.ofNat (16 * x + y) :: percentDecodeFrom 2 rest
        | _, _ => b :: percentDecodeFrom 0 rest
      else b :: percentDecodeFrom 0 rest

def percentDecode (cs : List Char) : List UInt8 :=
  percentDecodeFrom 0 (Text.Utf8.encode (String.ofList cs))

end Url
end ClusterTriage
