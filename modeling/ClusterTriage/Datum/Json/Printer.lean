import ClusterTriage.Datum.Basic
import ClusterTriage.Encoding.Hex

/-!
# Writing JSON

Two layouts: `compact` without any blanks, and `pretty` with two spaces a level and one item a line.
Characters are written as they are, except quotes, backslashes and control characters.
-/

namespace ClusterTriage
namespace Json

/-- The written form of one character of a string. -/
def escapeChar (c : Char) : List Char :=
  if c = '"' then ['\\', '"']
  else if c = '\\' then ['\\', '\\']
  else if c = '\n' then ['\\', 'n']
  else if c = '\r' then ['\\', 'r']
  else if c = '\t' then ['\\', 't']
  else if c = '\x08' then ['\\', 'b']
  else if c = '\x0C' then ['\\', 'f']
  else if c.toNat < 0x20 then
    ['\\', 'u', '0', '0', Encoding.Hex.digit (c.toNat / 16), Encoding.Hex.digit (c.toNat % 16)]
  else [c]

def quote (s : String) : String :=
  String.ofList ('"' :: s.toList.flatMap escapeChar ++ ['"'])

/-- A value that has no parts; a decimal is written to single precision. -/
def scalar : Datum → String
  | .null => "null"
  | .bool b => if b then "true" else "false"
  | .int n => toString n
  | .decimal d => (Number.Float32Bits.ofDecimal d).toJson
  | .single x => x.toJson
  | .string s => quote s
  | _ => "null"

mutual

def compact : Datum → String
  | .array items => "[" ++ ",".intercalate (compactItems items) ++ "]"
  | .object members => "\x7b" ++ ",".intercalate (compactMembers members) ++ "\x7d"
  | d => scalar d

def compactItems : List Datum → List String
  | [] => []
  | d :: rest => compact d :: compactItems rest

/-- The members of an object, each without blanks. -/
def compactMembers : List (String × Datum) → List String
  | [] => []
  | (name, d) :: rest => (quote name ++ ":" ++ compact d) :: compactMembers rest

end

/-- The start of a line at a level. -/
def indent (level : Nat) : String := String.ofList (List.replicate (2 * level) ' ')

/-- Parts between brackets, one a line, or only the brackets if there are none. -/
def block (left right : String) (level : Nat) (parts : List String) : String :=
  if parts.isEmpty then left ++ right
  else
    left ++ "\n" ++ ",\n".intercalate (parts.map (indent (level + 1) ++ ·)) ++ "\n" ++
      indent level ++ right

mutual

/-- A value whose first line starts at a level. -/
def prettyAt (level : Nat) : Datum → String
  | .array items => block "[" "]" level (prettyItems (level + 1) items)
  | .object members => block "\x7b" "\x7d" level (prettyMembers (level + 1) members)
  | d => scalar d

def prettyItems (level : Nat) : List Datum → List String
  | [] => []
  | d :: rest => prettyAt level d :: prettyItems level rest

def prettyMembers (level : Nat) : List (String × Datum) → List String
  | [] => []
  | (name, d) :: rest => (quote name ++ ": " ++ prettyAt level d) :: prettyMembers level rest

end

def pretty (d : Datum) : String := prettyAt 0 d

end Json
end ClusterTriage
