import Verbal.Main
import Verbal.Proofs.History
import Verbal.Proofs.Regular.Search
import Verbal.Proofs.Regular.Covering
import Verbal.Proofs.Chains
import Verbal.Proofs.Agreement
import Verbal.Proofs.Regular.Fragments
import Verbal.Proofs.Rejections
import Verbal.Proofs.Alternatives
import Verbal.Proofs.Failures
import Verbal.Proofs.CommandLine.Arguments
import Verbal.Proofs.Searches
import Verbal.Proofs.Reuse
import Verbal.Proofs.CommandLine.Runs
import Verbal.Proofs.Anchors
import Verbal.Proofs.Ranges
import Verbal.Proofs.Scans
import Verbal.Proofs.Findings
import Verbal.Proofs.Repetitions
import Verbal.Proofs.Borders
import Verbal.Proofs.Doublings
import Verbal.Proofs.Lookahead
import Verbal.Proofs.Caseless
import Verbal.Proofs.Lines
import Verbal.Proofs.Modifiers
