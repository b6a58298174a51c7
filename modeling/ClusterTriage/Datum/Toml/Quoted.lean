import ClusterTriage.Encoding.Hex

/-!
# TOML strings

Four forms: basic strings with escapes and literal strings without, each on one line or, in triple
quotes, on several. Up to two quotes may stand directly before a closing triple quote. Control
characters other than the tab have to be escaped.
-/

namespace ClusterTriage
namespace Toml

/-- Whether a character may stand for itself in a string or a comment. -/
def isPlain (c : Char) : Bool := c == '\t' || (0x20 ≤ c.toNat && c.toNat != 0x7F)

def isBlankChar (c : Char) : Bool := c == ' ' || c == '\t'

def newline? : List Char → Option (List Char)
  | '\n' :: rest => some rest
  | '\r' :: '\n' :: rest => some rest
  | _ => none

/-- The character of a code point given in hexadecimal digits. -/
def codePoint (digits : Nat) (cs : List Char) : Option (Char × List Char) := do
  let ds := cs.take digits
  if ds.length < digits then none
  else
    let n ← Encoding.Hex.toNat? ds
    if n < 0xD800 ∨ (0xE000 ≤ n ∧ n < 0x110000) then some (Char.ofNat n, cs.drop digits) else none

/-- The character of an escape, after the backslash. -/
def escaped : List Char → Option (Char × List Char)
  | 'b' :: rest => some ('\x08', rest)
  | 't' :: rest => some ('\t', rest)
  | 'n' :: rest => some ('\n', rest)
  | 'f' :: rest => some ('\x0C', rest)
  | 'r' :: rest => some ('\r', rest)
  | 'e' :: rest => some ('\x1B', rest)
  | '"' :: rest => some ('"', rest)
  | '\\' :: rest => some ('\\', rest)
  | 'x' :: rest => codePoint 2 rest
  | 'u' :: rest => codePoint 4 rest
  | 'U' :: rest => codePoint 8 rest
  | _ => none

def basic (fuel : Nat) (acc : List Char) (cs : List Char) : Option (String × List Char) :=
  match fuel, cs with
  | 0, _ => none
  | _ + 1, [] => none
  | _ + 1, '"' :: rest => some (String.ofList acc.reverse, rest)
  | fuel + 1, '\\' :: rest => do
    let (c, rest) ← escaped rest
    basic fuel (c :: acc) rest
  | fuel + 1, c :: rest => if isPlain c then basic fuel (c :: acc) rest else none

def literal (cs : List Char) : Option (String × List Char) :=
  let body := cs.takeWhile (· != '\'')
  match cs.dropWhile (· != '\'') with
  | _ :: rest => if body.all isPlain then some (String.ofList body, rest) else none
  | [] => none

/-- Blanks and line ends after a backslash at the end of a line. -/
def skipBreak (fuel : Nat) (cs : List Char) : List Char :=
  match fuel with
  | 0 => cs
  | fuel + 1 =>
    match cs with
    | c :: rest =>
      if isBlankChar c then skipBreak fuel rest
      else
        match newline? (c :: rest) with
        | some rest => skipBreak fuel rest
        | none => c :: rest
    | [] => []

/-- The rest of a string in triple quotes; only a basic one has escapes. -/
def multiline (quote : Char) (fuel : Nat) (acc : List Char) (cs : List Char) :
    Option (String × List Char) :=
  match fuel, cs with
  | 0, _ => none
  | _ + 1, [] => none
  | fuel + 1, c :: rest =>
    if c = quote then
      let quotes := (c :: rest).takeWhile (· == quote)
      if quotes.length < 3 then multiline quote fuel (c :: acc) rest
      else
        let kept := min (quotes.length - 3) 2
        some (String.ofList (acc.reverse ++ List.replicate kept quote),
          (c :: rest).drop (kept + 3))
    else if c = '\\' ∧ quote = '"' then
      match newline? (rest.dropWhile isBlankChar) with
      | some _ => multiline quote fuel acc (skipBreak rest.length rest)
      | none =>
        match escaped rest with
        | some (c, rest) => multiline quote fuel (c :: acc) rest
        | none => none
    else
      match newline? (c :: rest) with
      | some rest' =>
        multiline quote fuel (if c = '\r' then '\n' :: '\r' :: acc else '\n' :: acc) rest'
      | none => if isPlain c then multiline quote fuel (c :: acc) rest else none

/-- A string in any of the four forms, or only one that may be a key. -/
def quotedString (asKey : Bool) (cs : List Char) : Option (String × List Char) :=
  let enough := cs.length + 1
  match cs with
  | '"' :: '"' :: '"' :: rest =>
    if asKey then none else multiline '"' enough [] ((newline? rest).getD rest)
  | '\'' :: '\'' :: '\'' :: rest =>
    if asKey then none else multiline '\'' enough [] ((newline? rest).getD rest)
  | '"' :: rest => basic enough [] rest
  | '\'' :: rest => literal rest
  | _ => none

end Toml
end ClusterTriage
