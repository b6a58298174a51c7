import ClusterTriage.Digest.Blake3
import ClusterTriage.Encoding.Hex
import ClusterTriage.Files.Basic

/-!
# Caches of explanations

A cache maps a fingerprint to a payload. `Cache` is what a client sees of one: two implementations
exist, in memory and as a directory of files, and each can be switched off.
-/

namespace ClusterTriage

/-- Why a cache could not serve a request. -/
inductive CacheError where
  | file (cause : FileError)
  | notFound (key : String)
  | noDirectory
deriving DecidableEq, Repr

def CacheError.message : CacheError → String
  | .file cause => "IO error: " ++ cause.message
  | .notFound key => s!"cache entry {key} not found"
  | .noDirectory => "cache directory could not be determined"

/-- A cache as its client sees it. -/
structure Cache (m : Type → Type) where
  /-- What kind of cache it is. -/
  name : String
  disabled : Bool
  /-- Whether an entry can be had under a key. -/
  contains : String → m Bool
  load : String → m (Except CacheError String)
  store : String → String → m (Except CacheError Unit)

/-- The text that a fingerprint is taken of. -/
def Cache.subject (provider language input : String) : String :=
  provider ++ "-" ++ language ++ "-" ++ input

/-- The fingerprint of an explanation request: the digest of provider, language and input. -/
def Cache.key (provider language input : String) : String :=
  String.ofList (Encoding.Hex.encode
    (Digest.Blake3.hash (Text.Utf8.encode (subject provider language input))))

end ClusterTriage
