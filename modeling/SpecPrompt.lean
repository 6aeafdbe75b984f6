import SpecPrompt.Main
import SpecPrompt.Proofs.Text.Lines
import SpecPrompt.Proofs.Document.Outline
import SpecPrompt.Proofs.SortedMap
import SpecPrompt.Proofs.Document.RoundTrip
import SpecPrompt.Proofs.Prompt.ClosedForm
import SpecPrompt.Proofs.Prompt.TemplateText
import SpecPrompt.Proofs.Outcome
import SpecPrompt.Proofs.Project.Duplicates
import SpecPrompt.Proofs.Files.Walking
import SpecPrompt.Proofs.Project.Scan
import SpecPrompt.Proofs.Project.Verdict
import SpecPrompt.Proofs.Files.Detours
import SpecPrompt.Proofs.Files.Spot
import SpecPrompt.Proofs.Files.Plain
import SpecPrompt.Proofs.Files.Changes
import SpecPrompt.Proofs.Output.Writing
import SpecPrompt.Proofs.Output.Publish
import SpecPrompt.Proofs.Output.Atomicity
import SpecPrompt.Proofs.Output.Runs
import SpecPrompt.Proofs.Project.Configuration
import SpecPrompt.Proofs.Document.Markers
import SpecPrompt.Proofs.Document.Survival
import SpecPrompt.Proofs.Project.Enumeration
import SpecPrompt.Proofs.Files.Growth
import SpecPrompt.Proofs.Project.Insertion
import SpecPrompt.Proofs.Project.Slots
import SpecPrompt.Proofs.Project.Addition
import SpecPrompt.Proofs.Text.Casing
import SpecPrompt.Proofs.Document.Fields
import SpecPrompt.Proofs.Files.Absolute
import SpecPrompt.Proofs.Project.Probing
import SpecPrompt.Proofs.Files.Entries
import SpecPrompt.Proofs.Output.Untouched
import SpecPrompt.Proofs.Project.Steadiness
import SpecPrompt.Proofs.Files.Storing
import SpecPrompt.Proofs.Output.Repetition
import SpecPrompt.Proofs.Document.Sections
import SpecPrompt.Proofs.Text.Cutting
import SpecPrompt.Proofs.Document.Endings
import SpecPrompt.Proofs.Language.Labels
import SpecPrompt.Proofs.Language.Settings
import SpecPrompt.Proofs.Document.Lookup
import SpecPrompt.Proofs.Language.Shapes
import SpecPrompt.Proofs.Language.Precedence
import SpecPrompt.Proofs.Files.Resolving
import SpecPrompt.Proofs.Project.Discovery
import SpecPrompt.Proofs.Document.Composition
import SpecPrompt.Proofs.Document.Items
import SpecPrompt.Proofs.Project.RelativePaths
import SpecPrompt.Proofs.Project.Settings
import SpecPrompt.Proofs.Glob.Reading
import SpecPrompt.Proofs.Project.Preparation
