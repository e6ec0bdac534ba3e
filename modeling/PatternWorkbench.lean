import PatternWorkbench.Authoring.Session
import PatternWorkbench.Main
import PatternWorkbench.Proofs.Machine.Course
import PatternWorkbench.Proofs.Machine.Path
import PatternWorkbench.Proofs.Machine.Exploration
import PatternWorkbench.Proofs.Pattern.Combination
import PatternWorkbench.Proofs.Matching.GlobalScan
import PatternWorkbench.Proofs.Breakdown.Tiling
import PatternWorkbench.Proofs.Pattern.Spelling
import PatternWorkbench.Proofs.Pattern.Parts
import PatternWorkbench.Proofs.Pattern.Groups
import PatternWorkbench.Proofs.Inference.Fragment
import PatternWorkbench.Proofs.Matching.Whole
import PatternWorkbench.Proofs.Inference.Generalization
import PatternWorkbench.Proofs.Inference.Selection
import PatternWorkbench.Proofs.Breakdown.Brackets
import PatternWorkbench.Proofs.Authoring.Buffer
import PatternWorkbench.Proofs.Matching.Coverage
import PatternWorkbench.Proofs.Matching.AllOrNothing
import PatternWorkbench.Proofs.Machine.Room
import PatternWorkbench.Proofs.Pattern.Language
import PatternWorkbench.Proofs.Inference.Pieces
import PatternWorkbench.Proofs.Inference.Segmentation
import PatternWorkbench.Proofs.Inference.Abstraction
import PatternWorkbench.Proofs.Inference.Agreement
import PatternWorkbench.Proofs.Inference.Overlap
import PatternWorkbench.Proofs.Inference.Acceptance
import PatternWorkbench.Proofs.Inference.ExactText
import PatternWorkbench.Proofs.Inference.MaximalRuns
import PatternWorkbench.Proofs.Pattern.Numbering
import PatternWorkbench.Proofs.Machine.Rounds
import PatternWorkbench.Proofs.Matching.Captures
import PatternWorkbench.Proofs.Breakdown.LongestMatch
import PatternWorkbench.Proofs.Breakdown.Priority
import PatternWorkbench.Proofs.Authoring.Assembly
import PatternWorkbench.Proofs.Matching.Marking
import PatternWorkbench.Proofs.Breakdown.ErrorTokens
import PatternWorkbench.Proofs.Breakdown.Continuation
import PatternWorkbench.Proofs.Command.ShownFragment
import PatternWorkbench.Proofs.Settings.Layering
import PatternWorkbench.Proofs.Report.TokenRows
