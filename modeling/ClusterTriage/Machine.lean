import ClusterTriage.Http.Wire
import ClusterTriage.Program.Run
import Std.Async.DNS
import Std.Async.TCP

/-!
# The machine

What surrounds the program on a real machine: its files, its terminal, its clock and its source of
randomness, and servers that can be reached without a secure channel.
-/

namespace ClusterTriage
namespace Machine

open Std.Async Std.Net

/-- The program runs with a cache in memory. -/
abbrev App := StateT MemoryCache IO

/-! ## 1. Files -/

/-- The cause that the system reports. -/
def fileError : IO.Error → FileError
  | .noFileOrDirectory .. => .notFound
  | .noSuchThing .. => .notFound
  | .permissionDenied .. => .permissionDenied
  | .alreadyExists .. => .alreadyExists
  | .inappropriateType _ 21 _ => .isDirectory
  | .inappropriateType .. => .notDirectory
  | e => .other (toString e)

/-- Does something with a file and reports what stood in the way. -/
def attempt {α : Type} (x : IO α) : App (Except FileError α) := do
  try return .ok (← x)
  catch e => return .error (fileError e)

/-- What a path names: a directory can be opened but not be read. -/
def kindOf (path : String) : App (Option FileKind) := do
  match ← attempt (IO.FS.Handle.mk path .read) with
  | .error .permissionDenied => return some .regular
  | .error _ => return none
  | .ok handle =>
    match ← attempt (handle.read 1) with
    | .ok _ => return some .regular
    | .error _ => return some .directory

instance : MonadFiles App where
  kind? := kindOf
  readBytes path := do return (← attempt (IO.FS.readBinFile path)).map (·.toList)
  writeBytes path bytes := attempt (IO.FS.writeBinFile path ⟨bytes.toArray⟩)
  makeDirectory path := attempt (IO.FS.createDir path)
  restrictToOwner path :=
    attempt (IO.setAccessRights path { user := { read := true, write := true } })

/-! ## 2. Servers -/

/-- All that a connection brings until its end. -/
partial def receive (client : TCP.Socket.Client) (bytes : ByteArray) : Async ByteArray := do
  match ← client.recv? 65536 with
  | some more => receive client (bytes ++ more)
  | none => return bytes

def socketAddress (port : UInt16) : IPAddr → SocketAddress
  | .v4 addr => .v4 { addr, port }
  | .v6 addr => .v6 { addr, port }

/-- Sends a message to a host and waits for the answer. -/
def exchange (host : String) (port : Nat) (m : Http.Message) : Async (Option Http.Response) := do
  let addresses ← DNS.getAddrInfo host (toString port)
  match addresses[0]? with
  | none => return none
  | some address =>
    let client ← TCP.Socket.Client.mk
    client.connect (socketAddress port.toUInt16 address)
    client.send ⟨m.bytes.toArray⟩
    return Http.Response.ofBytes? (← receive client .empty).toList

def answer (host : String) (port : Nat) (m : Http.Message) : App (Option Http.Response) := do
  try (exchange host port m).block
  catch _ => return none

def send (r : Http.Request) : App (Option Http.Response) := do
  match r.url.scheme, r.url.host with
  | "http", some host => answer host.text (r.url.port.getD 80) (.ofRequest r)
  | _, _ => return none

def dial (s : Cluster.Server) : Cluster.Connection App where
  send uri := do
    match s.plainEndpoint? with
    | none => return .error Cluster.unreachable
    | some (host, port) =>
      let message : Http.Message :=
        { method := "GET", target := s.targetOf uri, host := s.authority }
      match ← answer host port message with
      | some r => return .ok r
      | none => return .error Cluster.unreachable

/-! ## 3. All of it -/

def randomKey : App Redaction.Key := do
  let bytes ← IO.getRandomBytes 32
  return (Redaction.Key.ofBytes? bytes.toList).getD .zero

/-- A variable of the environment that is set to something. -/
def variableOf (name : String) : IO (Option String) := do
  return (← IO.getEnv name).filter (· ≠ "")

/-- What the machine surrounds the program with. -/
def surroundings : IO (Surroundings App) := do
  let home ← variableOf "HOME"
  let cache ← variableOf "XDG_CACHE_HOME"
  let force ← IO.getEnv "CLICOLOR_FORCE"
  let refusal ← IO.getEnv "NO_COLOR"
  let choice ← IO.getEnv "CLICOLOR"
  let bindings := [("CLICOLOR_FORCE", force), ("NO_COLOR", refusal), ("CLICOLOR", choice)]
  let terminal ← (← IO.getStdout).isTty
  return {
    home
    userCache := (cache.filter Path.isAbsolute).or (home.map (Path.join · ".cache"))
    workingDirectory := some (← IO.currentDir).toString
    colour := wantsColour (fun name => (bindings.lookup name).join) terminal
    send, dial
    freshKey := randomKey
    now := do return (← IO.monoNanosNow) }

end Machine
end ClusterTriage
