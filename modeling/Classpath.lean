import Classpath.CommandLine.Arguments
import Classpath.CommandLine.Parse
import Classpath.Digest
import Classpath.DryRun
import Classpath.Exclusion
import Classpath.Failure
import Classpath.Files.Catalog
import Classpath.Files.Tree
import Classpath.Glob.Basis
import Classpath.Glob.Nesting
import Classpath.Glob.Parse
import Classpath.Glob.Pattern
import Classpath.Handler
import Classpath.Log
import Classpath.Main
import Classpath.NameTable
import Classpath.Path
import Classpath.Policy
import Classpath.Program
import Classpath.Project.Dependency
import Classpath.Project.Layout
import Classpath.Project.Model
import Classpath.ProjectFile.Basic
import Classpath.ProjectFile.Cycles
import Classpath.ProjectFile.Decode
import Classpath.ProjectFile.Load
import Classpath.ProjectFile.Project
import Classpath.ProjectFile.Violation
import Classpath.Report
import Classpath.Session.Basic
import Classpath.Session.Roots
import Classpath.Session.Walk
import Classpath.Text.Basic
import Classpath.Text.Lowercase
import Classpath.Text.Quoted
import Classpath.Text.Unicode.Casing
import Classpath.Text.Unicode.Display
import Classpath.Toml.Document
import Classpath.Toml.Number
import Classpath.Toml.Scalar
import Classpath.Toml.Token
import Classpath.Toml.Value
import Classpath.Vocabulary
import Classpath.Watch
import Classpath.Proofs.Walk.Move
import Classpath.Proofs.Walk.Progress
import Classpath.Proofs.Walk.Reach
import Classpath.Proofs.Walk.DepthFirst
import Classpath.Proofs.Distinct
import Classpath.Proofs.Roots.Contribution
import Classpath.Proofs.Filters
import Classpath.Proofs.Views
import Classpath.Proofs.Containment
import Classpath.Proofs.Containment.Options
import Classpath.Proofs.Containment.Kinds
import Classpath.Proofs.ProjectFile.Rules
import Classpath.Proofs.ProjectFile.Validation
import Classpath.Proofs.ProjectFile.Refusal
import Classpath.Proofs.Walk.Warnings
import Classpath.Proofs.ProjectFile.Resolution
import Classpath.Proofs.ClosedProject
import Classpath.Proofs.Roots.Outputs
import Classpath.Proofs.Roots.Provenance
import Classpath.Proofs.Walk.Agreement
import Classpath.Proofs.ProjectFile.Locality
import Classpath.Proofs.Watching
import Classpath.Proofs.Walk.Decisions
import Classpath.Proofs.RootModules
import Classpath.Proofs.Handlers
import Classpath.Proofs.Containment.Following
import Classpath.Proofs.Fingerprints
import Classpath.Proofs.Opinions
import Classpath.Proofs.ProjectFile.Circles
import Classpath.Proofs.FirstVisits
import Classpath.Proofs.Views.Consistency
import Classpath.Proofs.Excluded
import Classpath.Proofs.Paths
import Classpath.Proofs.Walk.Outline
import Classpath.Proofs.Relocation
import Classpath.Proofs.Display
import Classpath.Proofs.DryRun
import Classpath.Proofs.Roots.Joined
import Classpath.Proofs.ProjectFile.Obstacles
