import ClusterTriage.Datum.Toml.Quoted
import ClusterTriage.Datum.Toml.Scalar
import ClusterTriage.Datum.Toml.Table

/-!
# Reading TOML

A document is a sequence of lines: headers, definitions and comments. Inline tables may run over
several lines and end in a comma, as arrays may.
-/

namespace ClusterTriage
namespace Toml

/-! ## 1. Blanks, comments, keys -/

def skipBlanks (cs : List Char) : List Char := cs.dropWhile isBlankChar

/-- The rest of a line after a comment. -/
def comment? : List Char → Option (List Char)
  | '#' :: rest =>
    let body := rest.takeWhile fun c => c != '\n' && c != '\r'
    if body.all isPlain then some (rest.dropWhile fun c => c != '\n' && c != '\r') else none
  | cs => some cs

/-- Blanks, comments and line ends between the parts of an array or inline table. -/
def skipLines (fuel : Nat) (cs : List Char) : Option (List Char) :=
  match fuel with
  | 0 => some cs
  | fuel + 1 => do
    let cs ← comment? (skipBlanks cs)
    match newline? cs with
    | some rest => skipLines fuel rest
    | none => some cs

def isBareKeyChar (c : Char) : Bool :=
  Number.isDigit c || ('a' ≤ c && c ≤ 'z') || ('A' ≤ c && c ≤ 'Z') || c == '-' || c == '_'

def keyPart (cs : List Char) : Option (String × List Char) :=
  match cs with
  | '"' :: _ => quotedString true cs
  | '\'' :: _ => quotedString true cs
  | _ =>
    let bare := cs.takeWhile isBareKeyChar
    if bare.isEmpty then none else some (String.ofList bare, cs.dropWhile isBareKeyChar)

/-- A key, with the parts before its last part. Every part takes a character at least. -/
def key (fuel : Nat) (cs : List Char) : Option ((List String × String) × List Char) :=
  match fuel with
  | 0 => none
  | fuel + 1 => do
    let (part, rest) ← keyPart (skipBlanks cs)
    match skipBlanks rest with
    | '.' :: rest => do
      let ((path, last), rest) ← key fuel rest
      some ((part :: path, last), rest)
    | rest => some (([], part), rest)

/-! ## 2. Values -/

def endsScalar (c : Char) : Bool :=
  isBlankChar c || c == '\n' || c == '\r' || c == ',' || c == ']' || c == '}' || c == '#' ||
    c == '='

/-- A scalar without quotes. A date may be followed by a time after one space. -/
def plainScalar (cs : List Char) : Option (Datum × List Char) := do
  let token := cs.takeWhile (!endsScalar ·)
  let rest := cs.dropWhile (!endsScalar ·)
  let joined : Option (Datum × List Char) :=
    match date? token, rest with
    | some (_, []), ' ' :: more =>
      let time := more.takeWhile (!endsScalar ·)
      if (time.head?.map Number.isDigit).getD false then
        (moment? (token ++ ' ' :: time)).map (·, more.dropWhile (!endsScalar ·))
      else none
    | _, _ => none
  match joined with
  | some r => some r
  | none => some (← scalar? token, rest)

/-- How deep arrays and inline tables may lie in one another. -/
def maxDepth : Nat := 80

mutual

/-- A value; `depth` arrays and inline tables are open around it. -/
def value (fuel depth : Nat) (cs : List Char) : Option (Datum × List Char) :=
  match fuel with
  | 0 => none
  | fuel + 1 =>
    match cs with
    | '[' :: rest => do
      if maxDepth ≤ depth then none
      else
        let (items, rest) ← items fuel (depth + 1) rest
        some (.array items, rest)
    | '{' :: rest => do
      if maxDepth ≤ depth then none
      else
        let (entries, rest) ← members fuel (depth + 1) [] rest
        some (.object (entriesData entries), rest)
    | '"' :: _ => (quotedString false cs).map fun (s, rest) => (.string s, rest)
    | '\'' :: _ => (quotedString false cs).map fun (s, rest) => (.string s, rest)
    | _ => plainScalar cs

/-- The items of an array up to its closing bracket. -/
def items (fuel depth : Nat) (cs : List Char) : Option (List Datum × List Char) :=
  match fuel with
  | 0 => none
  | fuel + 1 => do
    match ← skipLines cs.length cs with
    | ']' :: rest => some ([], rest)
    | cs => do
      let (d, rest) ← value fuel depth cs
      match ← skipLines rest.length rest with
      | ']' :: rest => some ([d], rest)
      | ',' :: rest => do
        let (ds, rest) ← items fuel depth rest
        some (d :: ds, rest)
      | _ => none

/-- The definitions of an inline table up to its closing brace. -/
def members (fuel depth : Nat) (entries : Entries) (cs : List Char) :
    Option (Entries × List Char) :=
  match fuel with
  | 0 => none
  | fuel + 1 => do
    match ← skipLines cs.length cs with
    | '}' :: rest => some (entries, rest)
    | cs => do
      let ((path, last), rest) ← key cs.length cs
      let rest ← expect '=' rest
      let (d, rest) ← value fuel depth (skipBlanks rest)
      let entries ← define path last d .header entries
      match ← skipLines rest.length rest with
      | '}' :: rest => some (entries, rest)
      | ',' :: rest => members fuel depth entries rest
      | _ => none

end

/-! ## 3. Documents -/

/-- A document up to some line: its tables, and the table that the next definition goes into. -/
structure Document where
  entries : Entries := []
  current : List String := []

/-- A definition on a line of its own. -/
def Document.define (doc : Document) (path : List String) (last : String) (d : Datum) :
    Option Document := do
  let entries ← descend false (Toml.define path last d) .header doc.current doc.entries
  some { doc with entries }

/-- A header on a line of its own. -/
def Document.open (doc : Document) (isItem : Bool) (path : List String) (last : String) :
    Option Document := do
  let change (_ : Manner) (entries : Entries) :=
    if isItem then openItem last entries else openTable last entries
  let entries ← descend false change .header path doc.entries
  some { entries, current := path ++ [last] }

/-- The end of a line: blanks, a comment, and a line end or the end of the document. -/
def lineEnd (cs : List Char) : Option (List Char) := do
  match ← comment? (skipBlanks cs) with
  | [] => some []
  | cs => newline? cs

def line (doc : Document) (cs : List Char) : Option (Document × List Char) :=
  match skipBlanks cs with
  | '[' :: '[' :: rest => do
    let ((path, last), rest) ← key rest.length rest
    let rest ← expect ']' (← expect ']' rest)
    some (← doc.open true path last, ← lineEnd rest)
  | '[' :: rest => do
    let ((path, last), rest) ← key rest.length rest
    some (← doc.open false path last, ← lineEnd (← expect ']' rest))
  | '#' :: rest => (lineEnd ('#' :: rest)).map (doc, ·)
  | [] => some (doc, [])
  | cs =>
    match newline? cs with
    | some rest => some (doc, rest)
    | none => do
      let ((path, last), rest) ← key cs.length cs
      let (d, rest) ← value (2 * rest.length) 0 (skipBlanks (← expect '=' rest))
      some (← doc.define path last d, ← lineEnd rest)

/-- The lines up to the end of the document. Every line takes a character at least. -/
def lines (fuel : Nat) (doc : Document) (cs : List Char) : Option Document :=
  match fuel, cs with
  | _, [] => some doc
  | 0, _ => none
  | fuel + 1, cs => do
    let (doc, rest) ← line doc cs
    lines fuel doc rest

def parse (text : String) : Option Datum := do
  let cs := match text.toList with
    | '\uFEFF' :: rest => rest
    | cs => cs
  let doc ← lines cs.length {} cs
  some (.object (entriesData doc.entries))

end Toml
end ClusterTriage
