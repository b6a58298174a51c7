import ClusterTriage.Files.Tree
import ClusterTriage.Main
import ClusterTriage.Proofs.Analyzer.Naming
import ClusterTriage.Proofs.Analyzer.QualifiedNames
import ClusterTriage.Proofs.Cache.Fingerprint
import ClusterTriage.Proofs.Cache.Sessions
import ClusterTriage.Proofs.Explanation.Disclosure
import ClusterTriage.Proofs.Explanation.Recall
import ClusterTriage.Proofs.Explanation.Separation
import ClusterTriage.Proofs.Explanation.Uncached
import ClusterTriage.Proofs.Explanation.Visits
import ClusterTriage.Proofs.Program.FilterEdits
import ClusterTriage.Proofs.Redaction.Hiding
import ClusterTriage.Proofs.Redaction.KeyRoundTrip
import ClusterTriage.Proofs.Redaction.RoundTrip
import ClusterTriage.Proofs.Run.Clock
import ClusterTriage.Proofs.Run.CustomAnalyzers
import ClusterTriage.Proofs.Run.Explaining
import ClusterTriage.Proofs.Run.WholeRun
import ClusterTriage.Proofs.Selection.Edits
import ClusterTriage.Proofs.Selection.Listing
import ClusterTriage.Proofs.Text.Pattern
import ClusterTriage.Proofs.Plugin.Entries
import ClusterTriage.Proofs.Explanation.Quota
import ClusterTriage.Proofs.Explanation.Rendering
import ClusterTriage.Proofs.Analyzer.Services
import ClusterTriage.Proofs.Cache.SwitchedOff
import ClusterTriage.Proofs.Redaction.KeyFile
import ClusterTriage.Proofs.Analyzer.Findings
import ClusterTriage.Proofs.Run.Verdict
import ClusterTriage.Proofs.Json.Scalars
import ClusterTriage.Proofs.Json.Texts
import ClusterTriage.Proofs.Report.RoundTrip
import ClusterTriage.Proofs.Redaction.Length
import ClusterTriage.Proofs.Report.AllClear
