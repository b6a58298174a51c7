import ClusterTriage.Encoding.Hex
import ClusterTriage.Http.Client
import ClusterTriage.Http.Response
import ClusterTriage.Number.Digits
import ClusterTriage.Text.Blank
import ClusterTriage.Text.Utf8

/-!
# Messages on the wire

A message to a server is a line, headers and a body. Every message asks for the connection to be
closed after the answer, so that an answer is all that comes until the end. The body of an answer
may come in chunks, each with its size in front.
-/

namespace ClusterTriage
namespace Http

/-! ## 1. Messages to a server -/

structure Message where
  method : String
  target : String
  /-- The host, with its port where that is not the usual one. -/
  host : String
  headers : List (String × String) := []
  body : List UInt8 := []
deriving DecidableEq, Repr

/-- The lines before the body. -/
def Message.head (m : Message) : String :=
  let headers := [("host", m.host), ("user-agent", agent), ("accept", "*/*"),
    ("content-length", toString m.body.length), ("connection", "close")] ++ m.headers
  let lines := (m.method ++ " " ++ m.target ++ " HTTP/1.1") ::
    headers.map fun (name, value) => name ++ ": " ++ value
  String.join (lines.map (· ++ "\r\n")) ++ "\r\n"

def Message.bytes (m : Message) : List UInt8 := Text.Utf8.encode m.head ++ m.body

def Message.ofRequest (r : Request) : Message where
  method := "POST"
  target := (if r.url.path.text = "" then "/" else r.url.path.text) ++
    (r.url.query.map ("?" ++ ·)).getD ""
  host := (r.url.host.map (·.text)).getD "" ++ (r.url.port.map fun n => ":" ++ toString n).getD ""
  headers := ("content-type", "application/json") ::
    (r.authorization.map fun value => ("authorization", value)).toList
  body := Text.Utf8.encode r.body

/-! ## 2. Answers -/

/-- What stands before the first empty line, and what follows it. -/
def splitHead : List UInt8 → Option (List UInt8 × List UInt8)
  | 13 :: 10 :: 13 :: 10 :: rest => some ([], rest)
  | b :: rest => (splitHead rest).map fun (head, rest) => (b :: head, rest)
  | [] => none

def statusOf? (line : String) : Option Nat :=
  match Text.splitString ' ' line with
  | _ :: status :: _ => Number.naturalOf? status.toList
  | _ => none

/-- The name of a header in lower case, and its value. -/
def header (line : String) : String × String :=
  let cs := line.toList
  let name := (cs.takeWhile (· != ':')).map Char.toLower
  (String.ofList name, Text.trimString (String.ofList ((cs.dropWhile (· != ':')).drop 1)))

/-- The body in chunks, the last of which is empty. Every chunk takes at least a byte, so `fuel`
need not exceed the number of bytes. -/
def joinChunks : (fuel : Nat) → List UInt8 → Option (List UInt8)
  | 0, _ => none
  | fuel + 1, bytes => do
    let line := bytes.takeWhile (· != 13)
    let size ← Encoding.Hex.toNat? ((Text.Utf8.decodeLossy line).toList.takeWhile (· != ';'))
    if size = 0 then some []
    else
      let rest := bytes.drop (line.length + 2)
      return rest.take size ++ (← joinChunks fuel (rest.drop (size + 2)))

/-- The answer that the bytes of a connection make. -/
def Response.ofBytes? (bytes : List UInt8) : Option Response := do
  let (head, rest) ← splitHead bytes
  let lines := (Text.splitString '\n' (Text.Utf8.decodeLossy head)).map Text.trimEndString
  let status ← statusOf? (lines.headD "")
  let headers := lines.tail.map header
  if headers.lookup "transfer-encoding" = some "chunked" then
    return ⟨status, ← joinChunks rest.length rest⟩
  else
    match headers.lookup "content-length" >>= fun n => Number.naturalOf? n.toList with
    | some n => if n ≤ rest.length then some ⟨status, rest.take n⟩ else none
    | none => some ⟨status, rest⟩

end Http
end ClusterTriage
