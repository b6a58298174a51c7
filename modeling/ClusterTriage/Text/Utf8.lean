/-!
# UTF-8, with the place where it stops being UTF-8

Bytes arrive from files and from the network. A reader either refuses the first malformed sequence
and says where it stands, or replaces every malformed sequence by U+FFFD. Both readings come from
one function, `Utf8.pieces`, which cuts the bytes into characters and malformed sequences.
-/

namespace ClusterTriage
namespace Text

/-- One step of reading: a character, a sequence that can never be completed, or an input that ends
inside a sequence. The numbers count bytes. -/
inductive Utf8Piece where
  | char (c : Char) (size : Nat)
  | malformed (size : Nat)
  | incomplete (size : Nat)
deriving DecidableEq, Repr

/-- The first malformed sequence of a byte string: how many bytes before it are sound, and how long
it is, or `none` if the input ends inside it. -/
structure Utf8Error where
  validUpTo : Nat
  size : Option Nat
deriving DecidableEq, Repr

/-- The sentence that names a malformed sequence. -/
def Utf8Error.message (e : Utf8Error) : String :=
  match e.size with
  | some n => s!"invalid utf-8 sequence of {n} bytes from index {e.validUpTo}"
  | none => s!"incomplete utf-8 byte sequence from index {e.validUpTo}"

namespace Utf8

/-! ## 1. Sequences

The second byte of a sequence has a range that depends on the first: it excludes overlong forms,
surrogates and numbers above U+10FFFF. Every later byte is a plain continuation byte.
-/

/-- How many bytes follow a leading byte, and the range of the first of them. -/
def leading? (b : UInt8) : Option (Nat × UInt8 × UInt8) :=
  if 0xC2 ≤ b ∧ b ≤ 0xDF then some (1, 0x80, 0xBF)
  else if b = 0xE0 then some (2, 0xA0, 0xBF)
  else if b = 0xED then some (2, 0x80, 0x9F)
  else if 0xE1 ≤ b ∧ b ≤ 0xEF then some (2, 0x80, 0xBF)
  else if b = 0xF0 then some (3, 0x90, 0xBF)
  else if 0xF1 ≤ b ∧ b ≤ 0xF3 then some (3, 0x80, 0xBF)
  else if b = 0xF4 then some (3, 0x80, 0x8F)
  else none

/-- The bits of a leading byte that belong to the character. -/
def leadingBits (b : UInt8) (following : Nat) : Nat :=
  match following with
  | 1 => b.toNat % 0x20
  | 2 => b.toNat % 0x10
  | _ => b.toNat % 0x08

/-- Reads the bytes after a leading byte. `seen` bytes of the sequence are already read, `left` are
still to come, and the next one lies between `lo` and `hi`. -/
def continuation (seen left : Nat) (lo hi : UInt8) (acc : Nat) : List UInt8 → Utf8Piece
  | bytes =>
    match left, bytes with
    | 0, _ => .char (Char.ofNat acc) seen
    | _ + 1, [] => .incomplete seen
    | left + 1, b :: rest =>
      if lo ≤ b ∧ b ≤ hi then
        continuation (seen + 1) left 0x80 0xBF (acc * 64 + b.toNat % 64) rest
      else .malformed seen

/-- The first piece of a nonempty byte string. -/
def first (b : UInt8) (rest : List UInt8) : Utf8Piece :=
  if b < 0x80 then .char (Char.ofNat b.toNat) 1
  else
    match leading? b with
    | none => .malformed 1
    | some (left, lo, hi) => continuation 1 left lo hi (leadingBits b left) rest

end Utf8

def Utf8Piece.size : Utf8Piece → Nat
  | .char _ n => n
  | .malformed n => n
  | .incomplete n => n

namespace Utf8

/-- Cuts bytes into pieces, front to back. `skip` bytes still belong to the piece read last. -/
def piecesFrom (skip : Nat) : List UInt8 → List Utf8Piece
  | [] => []
  | b :: rest =>
    match skip with
    | skip + 1 => piecesFrom skip rest
    | 0 =>
      let piece := first b rest
      piece :: piecesFrom (piece.size - 1) rest

def pieces (bytes : List UInt8) : List Utf8Piece := piecesFrom 0 bytes

/-! ## 2. The two readings -/

/-- Collects characters until the first piece that is none. -/
def strict (offset : Nat) : List Utf8Piece → Except Utf8Error (List Char)
  | [] => .ok []
  | .char c n :: rest => (strict (offset + n) rest).map (c :: ·)
  | .malformed n :: _ => .error ⟨offset, some n⟩
  | .incomplete _ :: _ => .error ⟨offset, none⟩

def decode (bytes : List UInt8) : Except Utf8Error String :=
  (strict 0 (pieces bytes)).map String.ofList

/-- The text of a byte string, each malformed sequence replaced by U+FFFD. -/
def decodeLossy (bytes : List UInt8) : String :=
  String.ofList ((pieces bytes).map fun
    | .char c _ => c
    | _ => '\uFFFD')

def encode (s : String) : List UInt8 := s.toUTF8.toList

end Utf8

end Text
end ClusterTriage
