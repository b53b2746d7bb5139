import Syllogistic.Interpretation
import Syllogistic.Main
import Syllogistic.Proofs.Diagram.Bearing
import Syllogistic.Proofs.Chart.Contents
import Syllogistic.Proofs.Interpretation.Occupation
import Syllogistic.Proofs.Interpretation.Opposition
import Syllogistic.Proofs.Chart.Realization
import Syllogistic.Proofs.Chart.Records
import Syllogistic.Proofs.Ascending
import Syllogistic.Proofs.Model.Run
import Syllogistic.Proofs.Chart.Conclusion
import Syllogistic.Proofs.Model.Evaluation
import Syllogistic.Proofs.Verdict.Particular
import Syllogistic.Proofs.Verdict.Universal
import Syllogistic.Proofs.Model.Gathering
import Syllogistic.Proofs.Model.Satisfiability
import Syllogistic.Proofs.Verdict.Refutation
import Syllogistic.Proofs.Verdict.Import
import Syllogistic.Proofs.Statement.Grammar
import Syllogistic.Proofs.Model.Representation
import Syllogistic.Proofs.Model.Recording
import Syllogistic.Proofs.Model.Refusal
import Syllogistic.Proofs.Statement.Display
import Syllogistic.Proofs.Model.Declaration
import Syllogistic.Proofs.Diagram.Identifiers
import Syllogistic.Proofs.Snapshot
import Syllogistic.Proofs.Chart.Agreement
import Syllogistic.Proofs.Model.Agreement
import Syllogistic.Proofs.Model.Rearrangement
import Syllogistic.Proofs.Diagram.Embedding
import Syllogistic.Proofs.Chart.Correspondence
import Syllogistic.Proofs.Model.Extension
import Syllogistic.Proofs.Model.Renaming
import Syllogistic.Proofs.Model.Resemblance
import Syllogistic.Proofs.Model.ConflictModes
import Syllogistic.Proofs.Model.Session
import Syllogistic.Proofs.Verdict.Sharpening
import Syllogistic.Proofs.Model.Reading
import Syllogistic.Proofs.Model.Transcript
import Syllogistic.Proofs.Verdict.Definiteness
import Syllogistic.Proofs.Verdict.Marking
import Syllogistic.Proofs.Chart.Conflicts
import Syllogistic.Proofs.Model.ConflictReports
import Syllogistic.Proofs.Verdict.Premises
import Syllogistic.Proofs.Chart.Growth
import Syllogistic.Proofs.Model.Growth
import Syllogistic.Proofs.Diagram.Conversion
import Syllogistic.Proofs.Model.Conversion
import Syllogistic.Proofs.Model.Rereading
import Syllogistic.Proofs.Premise.Lines
import Syllogistic.Proofs.Token.Scanner
import Syllogistic.Proofs.Token.Spacing
import Syllogistic.Proofs.Premise.Classification
import Syllogistic.Proofs.Statement.Spelling
import Syllogistic.Proofs.Model.Lookup
import Syllogistic.Proofs.Verdict.WellFormedness
import Syllogistic.Proofs.Diagram.Listing
import Syllogistic.Proofs.Interpretation.Evidence
import Syllogistic.Proofs.CommandLine.Quotation
import Syllogistic.Proofs.CommandLine.ExitCode
