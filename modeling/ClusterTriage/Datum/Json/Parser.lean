import ClusterTriage.Datum.Basic
import ClusterTriage.Encoding.Hex
import ClusterTriage.Number.Digits

/-!
# Reading JSON

The grammar is the strict one: no comments, no trailing commas, no leading zeros. Half a surrogate
pair, a number beyond double precision and nesting beyond 127 levels are kept as `Datum.unreadable`:
such a value may stand in a member that nobody reads.
-/

namespace ClusterTriage
namespace Json

open Number

def isSpace (c : Char) : Bool := c == ' ' || c == '\n' || c == '\t' || c == '\r'

def skipSpace (cs : List Char) : List Char := cs.dropWhile isSpace

/-! ## 1. Strings -/

/-- The number of four hexadecimal digits. -/
def hex4 : List Char → Option (Nat × List Char)
  | a :: b :: c :: d :: rest => (Encoding.Hex.toNat? [a, b, c, d]).map (·, rest)
  | _ => none

def isHighSurrogate (n : Nat) : Bool := 0xD800 ≤ n && n ≤ 0xDBFF

def isLowSurrogate (n : Nat) : Bool := 0xDC00 ≤ n && n ≤ 0xDFFF

/-- The character of an escape, and whether it is a whole one. -/
def escape : List Char → Option (Option Char × List Char)
  | '"' :: rest => some (some '"', rest)
  | '\\' :: rest => some (some '\\', rest)
  | '/' :: rest => some (some '/', rest)
  | 'b' :: rest => some (some '\x08', rest)
  | 'f' :: rest => some (some '\x0C', rest)
  | 'n' :: rest => some (some '\n', rest)
  | 'r' :: rest => some (some '\r', rest)
  | 't' :: rest => some (some '\t', rest)
  | 'u' :: rest => do
    let (n, rest) ← hex4 rest
    if isHighSurrogate n then
      match rest with
      | '\\' :: 'u' :: rest' =>
        let (low, rest'') ← hex4 rest'
        if isLowSurrogate low then
          some (some (Char.ofNat (0x10000 + (n - 0xD800) * 0x400 + (low - 0xDC00))), rest'')
        else some (none, rest)
      | _ => some (none, rest)
    else if isLowSurrogate n then some (none, rest)
    else some (some (Char.ofNat n), rest)
  | _ => none

/-- The rest of a string after its opening quote. The text is `none` if some character of it is
half a pair; `fuel` bounds the number of characters. -/
def stringBody (fuel : Nat) (acc : Option (List Char)) (cs : List Char) :
    Option (Option String × List Char) :=
  match fuel, cs with
  | 0, _ => none
  | _ + 1, [] => none
  | _ + 1, '"' :: rest => some (acc.map fun a => String.ofList a.reverse, rest)
  | fuel + 1, '\\' :: rest => do
    let (c?, rest) ← escape rest
    stringBody fuel (do let a ← acc; let c ← c?; some (c :: a)) rest
  | fuel + 1, c :: rest =>
    if c.toNat < 0x20 then none else stringBody fuel (acc.map (c :: ·)) rest

/-! ## 2. Numbers -/

def digits (cs : List Char) : List Char × List Char := (cs.takeWhile isDigit, cs.dropWhile isDigit)

/-- The whole part: a zero alone, or digits that do not start with one. -/
def wholePart : List Char → Option (List Char × List Char)
  | '0' :: rest => if (rest.head?.map isDigit).getD false then none else some (['0'], rest)
  | cs =>
    let (ds, rest) := digits cs
    if ds.isEmpty then none else some (ds, rest)

/-- The digits after a point, none if there is no point. -/
def fractionPart : List Char → Option (Option (List Char) × List Char)
  | '.' :: cs =>
    let (ds, rest) := digits cs
    if ds.isEmpty then none else some (some ds, rest)
  | cs => some (none, cs)

def exponentPart : List Char → Option (Option Int × List Char)
  | c :: cs =>
    if c = 'e' ∨ c = 'E' then
      let (negative, cs) := match cs with
        | '-' :: cs => (true, cs)
        | '+' :: cs => (false, cs)
        | cs => (false, cs)
      let (ds, rest) := digits cs
      if ds.isEmpty then none
      else
        let n : Int := digitsValue ds
        some (some (if negative then -n else n), rest)
    else some (none, c :: cs)
  | [] => some (none, [])

/-- The value of a numeral: an integer where it is one and fits a machine word, otherwise a decimal.
Minus zero is no integer. -/
def numeral (negative : Bool) (whole : List Char) (fraction : Option (List Char))
    (exponent : Option Int) : Datum :=
  let asDecimal (fraction : List Char) (exponent : Int) : Datum :=
    let d : Decimal :=
      ⟨negative, digitsValue (whole ++ fraction), exponent - (fraction.length : Int)⟩
    match d.magnitude binary64 with
    | .infinite => .unreadable
    | .finite .. => .decimal d
  match fraction, exponent with
  | none, none =>
    let n := digitsValue whole
    if negative then
      if n = 0 ∨ 0x8000000000000000 < n then asDecimal [] 0 else .int (-(n : Int))
    else if n < 0x10000000000000000 then .int n else asDecimal [] 0
  | _, _ => asDecimal (fraction.getD []) (exponent.getD 0)

def number (cs : List Char) : Option (Datum × List Char) := do
  let (negative, cs) := match cs with
    | '-' :: cs => (true, cs)
    | cs => (false, cs)
  let (whole, cs) ← wholePart cs
  let (fraction, cs) ← fractionPart cs
  let (exponent, cs) ← exponentPart cs
  some (numeral negative whole fraction exponent, cs)

/-! ## 3. Values -/

/-- The input after a word, if it starts with the word. -/
def word (w : String) (cs : List Char) : Option (List Char) := w.toList.isPrefixOf? cs

/-- How deep arrays and objects may lie in one another and still be read. -/
def maxDepth : Nat := 127

/-- An array or object at a depth: too deep, it can only be skipped. -/
def atDepth (depth : Nat) (d : Datum) : Datum := if depth < maxDepth then d else .unreadable

mutual

/-- A value; `depth` containers are open around it. Each call leaves less fuel, and an input has no
more parts than characters. -/
def value (fuel depth : Nat) (cs : List Char) : Option (Datum × List Char) :=
  match fuel with
  | 0 => none
  | fuel + 1 =>
    match skipSpace cs with
    | [] => none
    | '"' :: rest => do
      let (s?, rest) ← stringBody (rest.length + 1) (some []) rest
      some ((s?.map Datum.string).getD .unreadable, rest)
    | '[' :: rest => do
      match skipSpace rest with
      | ']' :: rest => some (atDepth depth (.array []), rest)
      | rest =>
        let (items, rest) ← items fuel (depth + 1) rest
        some (atDepth depth (.array items), rest)
    | '{' :: rest => do
      match skipSpace rest with
      | '}' :: rest => some (atDepth depth (.object []), rest)
      | rest =>
        let (members?, rest) ← members fuel (depth + 1) rest
        some (atDepth depth ((members?.map Datum.object).getD .unreadable), rest)
    | c :: rest =>
      if c = '-' ∨ isDigit c then number (c :: rest)
      else
        match word "null" (c :: rest), word "true" (c :: rest), word "false" (c :: rest) with
        | some rest, _, _ => some (.null, rest)
        | _, some rest, _ => some (.bool true, rest)
        | _, _, some rest => some (.bool false, rest)
        | _, _, _ => none

/-- The items of an array up to its closing bracket. -/
def items (fuel depth : Nat) (cs : List Char) : Option (List Datum × List Char) :=
  match fuel with
  | 0 => none
  | fuel + 1 => do
    let (d, rest) ← value fuel depth cs
    match skipSpace rest with
    | ']' :: rest => some ([d], rest)
    | ',' :: rest => do
      let (ds, rest) ← items fuel depth rest
      some (d :: ds, rest)
    | _ => none

/-- The members of an object up to its closing brace, `none` if some name is no text. -/
def members (fuel depth : Nat) (cs : List Char) :
    Option (Option (List (String × Datum)) × List Char) :=
  match fuel with
  | 0 => none
  | fuel + 1 =>
    match skipSpace cs with
    | '"' :: rest => do
      let (name?, rest) ← stringBody (rest.length + 1) (some []) rest
      match skipSpace rest with
      | ':' :: rest => do
        let (d, rest) ← value fuel depth rest
        let add (more : Option (List (String × Datum))) : Option (List (String × Datum)) := do
          let name ← name?
          let more ← more
          some ((name, d) :: more)
        match skipSpace rest with
        | '}' :: rest => some (add (some []), rest)
        | ',' :: rest => do
          let (more, rest) ← members fuel depth rest
          some (add more, rest)
        | _ => none
      | _ => none
    | _ => none

end

def parse (text : String) : Option Datum := do
  let cs := text.toList
  let (d, rest) ← value (2 * cs.length + 2) 0 cs
  if (skipSpace rest).isEmpty then some d else none

end Json
end ClusterTriage
