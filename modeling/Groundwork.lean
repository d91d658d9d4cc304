import Groundwork.Main
import Groundwork.Proofs.Disk.Growth
import Groundwork.Proofs.Refusal
import Groundwork.Proofs.Disk.Change
import Groundwork.Proofs.Disk.Directories
import Groundwork.Proofs.Delivery.Step
import Groundwork.Proofs.Atomicity
import Groundwork.Proofs.Delivery.Outcome
import Groundwork.Proofs.Delivery.Overwrite
import Groundwork.Proofs.Delivery.Answers
import Groundwork.Proofs.Field.Reading
import Groundwork.Proofs.Markup.Nesting
import Groundwork.Proofs.Markup.Fitting
import Groundwork.Proofs.Layout.Lines
import Groundwork.Proofs.Layout.Sections
import Groundwork.Proofs.Layout.Blocks
import Groundwork.Proofs.Layout.KeyDeclaration
import Groundwork.Proofs.Resource.Supply
import Groundwork.Proofs.Field.Grammar
import Groundwork.Proofs.Identifier.Words
import Groundwork.Proofs.Resource.Derivation
import Groundwork.Proofs.Layout.Columns
import Groundwork.Proofs.Identifier.Ascii
import Groundwork.Proofs.Resource.KeyColumn
import Groundwork.Proofs.Identifier.Pieces
import Groundwork.Proofs.Resource.AttributeKeys
import Groundwork.Proofs.Field.Image
import Groundwork.Proofs.Plan.Files
import Groundwork.Proofs.Plan.Influence
import Groundwork.Proofs.Identifier.Casing
import Groundwork.Proofs.Resource.FieldLines
import Groundwork.Proofs.Path.Joining
import Groundwork.Proofs.Identifier.Slashes
import Groundwork.Proofs.Plan.Paths
import Groundwork.Proofs.Plan.Inside
import Groundwork.Proofs.Plan.SharedPaths
import Groundwork.Proofs.Delivery.Opening
import Groundwork.Proofs.Delivery.Routes
import Groundwork.Proofs.Plan.Distinct
import Groundwork.Proofs.Disk.Standing
import Groundwork.Proofs.Delivery.Again
import Groundwork.Proofs.Refresh
import Groundwork.Proofs.CommandLine.Extension
import Groundwork.Proofs.Outline
import Groundwork.Proofs.Resource.Definitions
import Groundwork.Proofs.Resource.Parameters
import Groundwork.Proofs.Field.Leniency
import Groundwork.Proofs.Identifier.Agreement
import Groundwork.Proofs.Identifier.Joining
import Groundwork.Proofs.Resource.BlankNames
import Groundwork.Proofs.RefreshDirectory
import Groundwork.Proofs.CommandLine.RoundTrip
import Groundwork.Proofs.Disk.Reading
import Groundwork.Proofs.Settings.Reading
import Groundwork.Proofs.Settings.Search
import Groundwork.Proofs.Toml.Assignment
import Groundwork.Proofs.Settings.RoundTrip
