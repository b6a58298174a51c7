import ClusterTriage.Text.Quoted

/-!
# What can go wrong with a custom analyzer

A custom analyzer is named in the configuration and reached over HTTP. It can be written wrongly,
be out of reach, refuse, or answer with something else than a finding.
-/

namespace ClusterTriage

/-- Why a custom analyzer brought no finding. -/
inductive PluginError where
  | invalidName (name : String)
  | invalidConnection (name reason : String)
  | noClient (name reason : String)
  | http (reason : String)
  | status (code : Nat) (body : String)
  | undecodable (reason : String)
deriving DecidableEq, Repr

def PluginError.message : PluginError → String
  | .invalidName name =>
    "invalid custom analyzer name " ++ Text.quoted name ++
      ": must be a lowercase RFC 1123 subdomain"
  | .invalidConnection name reason =>
    s!"invalid connection for custom analyzer {name}: {reason}"
  | .noClient name reason => s!"client creation error for {name} analyzer: {reason}"
  | .http reason => s!"HTTP request failed: {reason}"
  | .status code body => s!"plugin returned status {code}: {body}"
  | .undecodable reason => s!"failed to parse plugin response: {reason}"

end ClusterTriage
