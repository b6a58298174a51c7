import ClusterTriage.Digest.Blake3
import ClusterTriage.Redaction.Basic
import ClusterTriage.Text.Utf8

/-!
# Mask keys

A mask key turns a value into a mask of the same length, drawn from letters and digits. The letters
come from the keyed output stream of the value's bytes, so one key always masks a value alike, and
without the key a mask says nothing. A mask never equals its value: if the stream happens to spell
the value, a run of `x` or else of `y` stands in.
-/

namespace ClusterTriage
namespace Redaction

/-- The characters that masks are made of. -/
def maskAlphabet : List Char :=
  "abcdefghijklmnopqrstuvwxyzABCDEFGHIJKLMNOPQRSTUVWXYZ0123456789".toList

def maskLetter (b : UInt8) : Char := maskAlphabet.getD (b.toNat % 62) 'a'

/-- The first `n` characters that a stream of bytes spells. -/
def spell (stream : Nat → UInt8) (n : Nat) : List Char :=
  (List.range n).map fun i => maskLetter (stream i)

/-- The mask of a value, given the stream of bytes that belongs to it. -/
def maskOf (stream : Nat → UInt8) (value : List Char) : List Char :=
  let spelled := spell stream value.length
  if spelled = value then
    let fallback := List.replicate value.length 'x'
    if fallback = value then List.replicate value.length 'y' else fallback
  else spelled

/-- The secret of one installation: 32 bytes. -/
structure Key where
  bytes : List UInt8
  length_eq : bytes.length = 32 := by decide
deriving DecidableEq

namespace Key

def ofBytes? (bytes : List UInt8) : Option Key :=
  if h : bytes.length = 32 then some ⟨bytes, h⟩ else none

def zero : Key := ⟨List.replicate 32 0, by simp⟩

instance : Inhabited Key := ⟨zero⟩

/-- The stream of bytes that belongs to a value, as far as the value's mask needs it. -/
def stream (k : Key) (value : String) : Array UInt8 :=
  (Digest.Blake3.keyedStream k.bytes (Text.Utf8.encode value) value.length).toArray

def mask (k : Key) (value : String) : String :=
  let bytes := k.stream value
  String.ofList (maskOf (fun i => bytes.getD i 0) value.toList)

/-- The rule that hides a value under a key. -/
def rule (k : Key) (value : String) : Rule := ⟨value, k.mask value⟩

/-- How a key shows in diagnostic text: its bytes never do. -/
def described : String := "MaskKey(..)"

end Key
end Redaction
end ClusterTriage
