import ClusterTriage.Datum.Basic
import ClusterTriage.Text.Substitution

/-!
# Writing TOML

A table is written as a header and its plain entries, followed by the tables inside it. The header
of a table that holds tables only is left out, since theirs imply it. Strings are written in the
first of four forms that needs no escapes; keys are bare where they can be.
-/

namespace ClusterTriage
namespace Toml

/-! ## 1. Strings -/

/-- The characters that only an escape can write. -/
def needsEscape (c : Char) : Bool :=
  c != '\t' && c != '\n' && (c.toNat < 0x20 || c.toNat == 0x7F)

/-- The greatest number of times that a character stands in a row, `run` of them just before. -/
def longestRun (q : Char) (run : Nat) : List Char → Nat
  | [] => run
  | c :: cs => if c = q then longestRun q (run + 1) cs else max run (longestRun q 0 cs)

def upperDigit (n : Nat) : Char := "0123456789ABCDEF".toList.getD n '0'

/-- The escape of a character, where it has one. Line breaks have one only in a string of one
line. -/
def escapeOf (oneLine : Bool) (c : Char) : List Char :=
  if c = '\x08' then ['\\', 'b']
  else if c = '\t' then ['\\', 't']
  else if c = '\n' then if oneLine then ['\\', 'n'] else [c]
  else if c = '\x0C' then ['\\', 'f']
  else if c = '\r' then ['\\', 'r']
  else if c = '\\' then ['\\', '\\']
  else if needsEscape c then
    ['\\', 'u', '0', '0', upperDigit (c.toNat / 16), upperDigit (c.toNat % 16)]
  else [c]

/-- The inside of an escaped string. Up to `spare` quotes in a row may stand as they are, and `run`
of them have just been written. -/
def escapedFrom (oneLine : Bool) (spare run : Nat) : List Char → List Char
  | [] => []
  | c :: cs =>
    if c = '"' then
      if run < spare then c :: escapedFrom oneLine spare (run + 1) cs
      else '\\' :: c :: escapedFrom oneLine spare 0 cs
    else escapeOf oneLine c ++ escapedFrom oneLine spare 0 cs

/-- A text between quotes. A text over several lines starts on a line of its own. -/
def between (quotes : String) (multiline : Bool) (hasBreak : Bool) (inside : List Char) : String :=
  quotes ++ (if multiline && hasBreak then "\n" else "") ++ String.ofList inside ++ quotes

/-- A string in the first form that can hold it without escapes, or else with escapes. -/
def string (s : String) : String :=
  let cs := s.toList
  let hasBreak := cs.contains '\n'
  let plain := !cs.any needsEscape
  let bare := plain && !cs.contains '\\'
  let threeQuotes := "\"\"\""
  if bare && !cs.contains '"' && !hasBreak then
    between "\"" false hasBreak (escapedFrom true 0 0 cs)
  else if plain && !cs.contains '\'' && !hasBreak then between "'" false hasBreak cs
  else if bare && longestRun '"' 0 cs ≤ 2 then
    between threeQuotes true hasBreak (escapedFrom false 2 0 cs)
  else if plain && longestRun '\'' 0 cs ≤ 2 then between "'''" true hasBreak cs
  else if hasBreak then between threeQuotes true hasBreak (escapedFrom false 2 0 cs)
  else between "\"" false hasBreak (escapedFrom true 0 0 cs)

/-! ## 2. Keys -/

def isBareChar (c : Char) : Bool :=
  ('a' ≤ c && c ≤ 'z') || ('A' ≤ c && c ≤ 'Z') || ('0' ≤ c && c ≤ '9') || c == '_' || c == '-'

def keyText (s : String) : String :=
  let cs := s.toList
  let hasBreak := cs.contains '\n'
  let plain := !cs.any needsEscape && !hasBreak
  if !cs.isEmpty && cs.all isBareChar then s
  else if !(plain && !cs.contains '\\' && !cs.contains '"') && plain && !cs.contains '\'' then
    between "'" false hasBreak cs
  else between "\"" false hasBreak (escapedFrom true 0 0 cs)

/-- Keys from the outermost table inwards. -/
def pathText (path : List String) : String := ".".intercalate (path.map keyText)

/-! ## 3. Values -/

def isTable : Datum → Bool
  | .object _ => true
  | _ => false

def isTables : Datum → Bool
  | .array items => !items.isEmpty && items.all isTable
  | _ => false

mutual

/-- A value on one line. -/
def inline : Datum → String
  | .bool b => if b then "true" else "false"
  | .int n => toString n
  | .decimal d => (Number.Float32Bits.ofDecimal d).toToml
  | .single x => x.toToml
  | .string s => string s
  | .array items => "[" ++ ", ".intercalate (inlineItems items) ++ "]"
  | .object members => "\x7b " ++ ", ".intercalate (inlineMembers members) ++ " \x7d"
  | _ => "\"\""

def inlineItems : List Datum → List String
  | [] => []
  | d :: rest => inline d :: inlineItems rest

def inlineMembers : List (String × Datum) → List String
  | [] => []
  | (name, d) :: rest => (keyText name ++ " = " ++ inline d) :: inlineMembers rest

end

/-- A value after its key. An array of more than one item takes a line an item. -/
def valueText : Datum → String
  | .array (a :: b :: rest) =>
    "[\n" ++ String.join ((inlineItems (a :: b :: rest)).map fun t => "    " ++ t ++ ",\n") ++ "]"
  | d => inline d

/-- The line of an entry, unless it is written as a table. Nothing is written for null. -/
def entryLine? : String × Datum → Option String
  | (_, .null) => none
  | (name, d) =>
    if isTable d || isTables d then none else some (keyText name ++ " = " ++ valueText d ++ "\n")

/-- The plain entries of a table. -/
def entryLines (members : List (String × Datum)) : String :=
  String.join (members.filterMap entryLine?)

/-! ## 4. Tables -/

mutual

/-- The sections of the tables inside a table, each a header with its plain entries. -/
def sections (path : List String) : List (String × Datum) → List String
  | [] => []
  | (name, .object members) :: rest =>
    let here := path ++ [name]
    let own :=
      if entryLines members = "" && !members.isEmpty then []
      else ["[" ++ pathText here ++ "]\n" ++ entryLines members]
    own ++ sections here members ++ sections path rest
  | (name, .array items) :: rest =>
    (if isTables (.array items) then itemSections (path ++ [name]) items else []) ++
      sections path rest
  | _ :: rest => sections path rest

/-- The sections of a sequence of tables. -/
def itemSections (path : List String) : List Datum → List String
  | [] => []
  | .object members :: rest =>
    ("[[" ++ pathText path ++ "]]\n" ++ entryLines members) ::
      (sections path members ++ itemSections path rest)
  | _ :: rest => itemSections path rest

end

def pretty : Datum → String
  | .object members =>
    let own := if entryLines members = "" then [] else [entryLines members]
    "\n".intercalate (own ++ sections [] members)
  | d => inline d

end Toml
end ClusterTriage
