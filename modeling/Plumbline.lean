import Plumbline.Main
import Plumbline.Proofs.Text.Class
import Plumbline.Proofs.Text.Lines
import Plumbline.Proofs.Blueprint.Layout
import Plumbline.Proofs.Blueprint.Entry
import Plumbline.Proofs.Blueprint.Siblings
import Plumbline.Proofs.Blueprint.RoundTrip
import Plumbline.Proofs.Score
import Plumbline.Proofs.Run
import Plumbline.Proofs.Source.Classes
import Plumbline.Proofs.Text.Search
import Plumbline.Proofs.Blueprint.Models
import Plumbline.Proofs.Glob
import Plumbline.Proofs.Site
import Plumbline.Proofs.Check.Models
import Plumbline.Proofs.Cap
import Plumbline.Proofs.Findings
import Plumbline.Proofs.Isolation
import Plumbline.Proofs.Accounting
import Plumbline.Proofs.Source.Relations
import Plumbline.Proofs.Blueprint.Relations
import Plumbline.Proofs.Check.Relationships
import Plumbline.Proofs.Json.Layout
import Plumbline.Proofs.Json.Record
import Plumbline.Proofs.Check.Parameters
import Plumbline.Proofs.Manifest
import Plumbline.Proofs.Pattern
import Plumbline.Proofs.Check.Obstacle
import Plumbline.Proofs.Check.Totality
import Plumbline.Proofs.Compilation
import Plumbline.Proofs.Rootless
import Plumbline.Proofs.Phase.Target
import Plumbline.Proofs.Check.IssueTypes
import Plumbline.Proofs.Blueprint.Names
import Plumbline.Proofs.Blueprint.Declaration
import Plumbline.Proofs.Phase.Scaffold
import Plumbline.Proofs.Bounds
import Plumbline.Proofs.Aggravation
import Plumbline.Proofs.CleanRun
import Plumbline.Proofs.Confinement
import Plumbline.Proofs.Duplicates
import Plumbline.Proofs.Reordering
import Plumbline.Proofs.Double
import Plumbline.Proofs.Configuration
import Plumbline.Proofs.Files.Removal
import Plumbline.Proofs.Removal
import Plumbline.Proofs.Check.Texts
import Plumbline.Proofs.Check.FirstMatch
import Plumbline.Proofs.Check.Presence
import Plumbline.Proofs.Check.Versions
import Plumbline.Proofs.Unreadable
import Plumbline.Proofs.Files.Walk
import Plumbline.Proofs.Walks
import Plumbline.Proofs.Growth
import Plumbline.Proofs.Text.Infix
import Plumbline.Proofs.Source.Calls
import Plumbline.Proofs.Source.Brackets
import Plumbline.Proofs.Source.Scripts
import Plumbline.Proofs.Check.Migrations
import Plumbline.Proofs.Blueprint.Holders
import Plumbline.Proofs.Blueprint.Applications
import Plumbline.Proofs.Phase.Copies
import Plumbline.Proofs.Phase.Requirements
import Plumbline.Proofs.Check.Scanners
import Plumbline.Proofs.Blueprint.Rows
import Plumbline.Proofs.Blueprint.Pins
import Plumbline.Proofs.Blueprint.Dependencies
import Plumbline.Proofs.Check.Manifests
import Plumbline.Proofs.Phase.Dependencies
import Plumbline.Proofs.Phase.Names
import Plumbline.Proofs.Generation
import Plumbline.Proofs.Blueprint.Declarations
import Plumbline.Proofs.Blueprint.Warnings
import Plumbline.Proofs.Phase.Shares
import Plumbline.Proofs.Blueprint.Paths
import Plumbline.Proofs.Blueprint.Listing
import Plumbline.Proofs.Blueprint.Fields
import Plumbline.Proofs.Blueprint.Statements
import Plumbline.Proofs.Blueprint.Overwriting
import Plumbline.Proofs.Check.Workflows
import Plumbline.Proofs.Specification
import Plumbline.Proofs.Check.Deprecation
import Plumbline.Proofs.Source.Imports
import Plumbline.Proofs.Check.DeclarationLines
import Plumbline.Proofs.Check.Tags
import Plumbline.Proofs.Text.Case
import Plumbline.Proofs.Version
import Plumbline.Proofs.Check.Releases
import Plumbline.Proofs.Waivers
import Plumbline.Proofs.Text.Slug
import Plumbline.Proofs.Blueprint.Sections
import Plumbline.Proofs.Blueprint.Capture
import Plumbline.Proofs.Blueprint.Outline
import Plumbline.Proofs.Report
import Plumbline.Proofs.Suffixes
import Plumbline.Proofs.Blueprint.Descent
