import ClusterTriage.Url.Basic
import ClusterTriage.Url.Domain

/-!
# Reading addresses

An address starts with its scheme. Addresses of the usual schemes have a host, whatever the number
of slashes in front of it, and backslashes count as slashes; others have one only after two
slashes, and without any slash their path has no structure. Steps in a path to the same or to the
upper level are taken at once.
-/

namespace ClusterTriage
namespace Url

/-! ## 1. The text -/

/-- A text without control characters and blanks at its ends, and without line breaks and tabs. -/
def clean (s : String) : List Char :=
  let edge (c : Char) : Bool := c.toNat ≤ 0x20
  ((s.toList.dropWhile edge).reverse.dropWhile edge).reverse.filter fun c =>
    c != '\t' && c != '\n' && c != '\r'

def isAsciiLetter (c : Char) : Bool := ('a' ≤ c && c ≤ 'z') || ('A' ≤ c && c ≤ 'Z')

/-- The scheme in lowercase, and the rest after its colon. -/
def scheme? (cs : List Char) : Option (String × List Char) :=
  let inScheme (c : Char) : Bool :=
    isAsciiLetter c || ('0' ≤ c && c ≤ '9') || c == '+' || c == '-' || c == '.'
  match cs.dropWhile inScheme with
  | ':' :: rest =>
    if (cs.head?.map isAsciiLetter).getD false then
      some (String.ofList ((cs.takeWhile inScheme).map Char.toLower), rest)
    else none
  | _ => none

/-- Whether a character is a slash in addresses of the usual schemes, or of any. -/
def isSlash (special : Bool) (c : Char) : Bool := c == '/' || (special && c == '\\')

/-- The text before the query and the fragment, the query and the fragment. -/
def splitTail (cs : List Char) : List Char × Option (List Char) × Option (List Char) :=
  let body := cs.takeWhile (· != '#')
  let fragment := match cs.dropWhile (· != '#') with
    | _ :: rest => some rest
    | [] => none
  let query := match body.dropWhile (· != '?') with
    | _ :: rest => some rest
    | [] => none
  (body.takeWhile (· != '?'), query, fragment)

/-! ## 2. Paths -/

/-- Whether a name in a path stands for the level it is on. -/
def isSameLevel (cs : List Char) : Bool := cs == ['.'] || cs.map Char.toLower == "%2e".toList

/-- Whether a name in a path stands for the upper level. -/
def isUpperLevel (cs : List Char) : Bool :=
  ["..", "%2e.", ".%2e", "%2e%2e"].any fun s => cs.map Char.toLower == s.toList

/-- Whether a name is a drive: a letter and a colon, or something in place of it. -/
def isDrive (cs : List Char) : Bool :=
  match cs with
  | [c, d] => isAsciiLetter c && (d == ':' || d == '|')
  | _ => false

/-- Takes the steps of a path. The step to the upper level does not leave a drive. -/
def takeSteps (file : Bool) (taken : List String) : List (List Char) → List String
  | [] => taken
  | step :: rest =>
    let up :=
      if file && taken.length == 1 && taken.any (isDrive ·.toList) then taken else taken.dropLast
    if isUpperLevel step then takeSteps file (if rest.isEmpty then up ++ [""] else up) rest
    else if isSameLevel step then
      takeSteps file (if rest.isEmpty then taken ++ [""] else taken) rest
    else
      let step := if file && taken.isEmpty && isDrive step then step.take 1 ++ [':'] else step
      takeSteps file (taken ++ [percentEncode inPath step]) rest

def steps (special : Bool) (cs : List Char) : List (List Char) :=
  Text.splitOnChar '/' (cs.map fun c => if isSlash special c then '/' else c)

def pathAfterHost (special : Bool) (cs : List Char) : UrlPath :=
  match cs with
  | [] => .names (if special then [""] else [])
  | c :: rest =>
    let rest := if isSlash special c then rest else c :: rest
    .names (takeSteps false [] (steps special rest))

/-- The path of a file; slashes in front of it do not count. -/
def filePath (cs : List Char) : UrlPath :=
  match takeSteps true [] (steps true cs) with
  | names =>
    match names.dropWhile (· == "") with
    | [] => .names [""]
    | names => .names names

/-! ## 3. Hosts -/

def host? (cs : List Char) : Except UrlError Host :=
  match cs with
  | [] => .error .emptyHost
  | '[' :: rest =>
    if rest.getLast? = some ']' then
      match ipv6? rest.dropLast with
      | some words => .ok (.ipv6 words)
      | none => .error .invalidIpv6
    else .error .invalidIpv6
  | _ =>
    match Domain.toAscii? (percentDecode cs) with
    | none => .error .invalidDomain
    | some [] => .error .emptyHost
    | some name =>
      if endsInNumber name then
        match ipv4? name with
        | some n => .ok (.ipv4 n)
        | none => .error .invalidIpv4
      else .ok (.name (String.ofList name))

/-- The host of any other scheme. -/
def otherHost? (cs : List Char) : Except UrlError Host :=
  match cs with
  | '[' :: _ => host? cs
  | _ =>
    if cs.any (" \x00#/:<>?@[\\]^|".toList.contains ·) then .error .invalidDomainCharacter
    else .ok (.name (percentEncode isControl cs))

/-- The text of the host and the rest; colons in brackets belong to the host. -/
def splitHost (inBrackets : Bool) : List Char → List Char × List Char
  | [] => ([], [])
  | c :: cs =>
    if c == ':' && !inBrackets then ([], c :: cs)
    else
      let inside := if c == '[' then true else if c == ']' then false else inBrackets
      let (host, rest) := splitHost inside cs
      (c :: host, rest)

/-- The port after a colon, if one is written. -/
def port? (cs : List Char) : Except UrlError (Option Nat) :=
  if cs.isEmpty then .ok none
  else if !cs.all (isDigitOf 10) then .error .invalidPort
  else
    let n := digitsIn 10 cs
    if n < 0x10000 then .ok (some n) else .error .invalidPort

def userInfo? (cs : List Char) : String × String :=
  (percentEncode inUserInfo (cs.takeWhile (· != ':')),
    percentEncode inUserInfo ((cs.dropWhile (· != ':')).drop 1))

/-- The text before the last `@` and the text after it. -/
def splitUserInfo (cs : List Char) : Option (List Char × List Char) :=
  if cs.contains '@' then
    let host := (cs.reverse.takeWhile (· != '@')).reverse
    some (cs.take (cs.length - host.length - 1), host)
  else none

/-- The parts of an address between the slashes after the scheme and the path. -/
def authority (scheme : String) (cs : List Char) : Except UrlError Url := do
  let special := isSpecial scheme
  let (user, rest) := match splitUserInfo cs with
    | some (user, rest) => (some user, rest)
    | none => (none, cs)
  let (username, password) := userInfo? (user.getD [])
  let (name, rest) := splitHost false rest
  let host ← if special then host? name else otherHost? name
  if host = .name "" ∧ (username ≠ "" ∨ password ≠ "" ∨ !rest.isEmpty) then .error .emptyHost
  else
    let port ← port? (rest.drop 1)
    .ok { scheme, username, password, host := some host
          port := if port = defaultPort? scheme then none else port }

/-! ## 4. Addresses -/

def fileAddress (cs : List Char) : Except UrlError Url := do
  match cs with
  | c :: d :: rest =>
    if isSlash true c && isSlash true d then
      let name := rest.takeWhile fun c => !isSlash true c
      let after := rest.dropWhile fun c => !isSlash true c
      if name.isEmpty || isDrive name then .ok { scheme := "file", path := filePath rest }
      else
        let host ← host? name
        let host := if host = .name "localhost" then none else some host
        .ok { scheme := "file", host, path := filePath (after.drop 1) }
    else .ok { scheme := "file", path := filePath (if isSlash true c then d :: rest else cs) }
  | _ => .ok { scheme := "file", path := filePath (cs.dropWhile (isSlash true)) }

/-- The parts of an address before its query. -/
def body (scheme : String) (cs : List Char) : Except UrlError Url := do
  let special := isSpecial scheme
  if scheme = "file" then fileAddress cs
  else
    let withHost (cs : List Char) : Except UrlError Url := do
      let u ← authority scheme (cs.takeWhile fun c => !isSlash special c)
      .ok { u with path := pathAfterHost special (cs.dropWhile fun c => !isSlash special c) }
    if special then withHost (cs.dropWhile (isSlash true))
    else
      match cs with
      | '/' :: '/' :: rest => withHost rest
      | '/' :: rest => .ok { scheme, path := .names (takeSteps false [] (steps false rest)) }
      | _ => .ok { scheme, path := .unstructured (percentEncode isControl cs) }

def parse (s : String) : Except UrlError Url :=
  match scheme? (clean s) with
  | none => .error .relative
  | some (scheme, rest) => do
    let (front, query, fragment) := splitTail rest
    let u ← body scheme front
    .ok { u with
          query := query.map (percentEncode (inQuery (isSpecial scheme)))
          fragment := fragment.map (percentEncode inFragment) }

def withPath (u : Url) (path : String) : Url :=
  { u with path := pathAfterHost (isSpecial u.scheme) path.toList }

end Url
end ClusterTriage
