import MetricFacade.Build
import MetricFacade.Cache.Arena
import MetricFacade.Live.Session
import MetricFacade.Main
import MetricFacade.Sample
import MetricFacade.Proofs.Cache.Entries
import MetricFacade.Proofs.Cache.Crowd
import MetricFacade.Proofs.Cache.Serving
import MetricFacade.Proofs.Cache.Arena
import MetricFacade.Proofs.Registry.AllOrNothing
import MetricFacade.Proofs.Bucket.Fault
import MetricFacade.Proofs.Catalog
import MetricFacade.Proofs.Check.AcrossMetrics
import MetricFacade.Proofs.Check.PerMetric
import MetricFacade.Proofs.Rust.Checked
import MetricFacade.Proofs.Live.Acceptance
import MetricFacade.Proofs.Registry.Residue
import MetricFacade.Live.History
import MetricFacade.Proofs.Registry.Contents
import MetricFacade.Proofs.Live.History
import MetricFacade.Proofs.Partition
import MetricFacade.Proofs.Policy
import MetricFacade.Proofs.Rust.Arguments
import MetricFacade.Proofs.Rust.Shadowing
import MetricFacade.Proofs.Reordering
import MetricFacade.Proofs.Rust.Forest
import MetricFacade.Proofs.Rust.Lexing
import MetricFacade.Proofs.Rust.Legible
import MetricFacade.Proofs.Rust.HelpTexts
import MetricFacade.Proofs.Number.Double
import MetricFacade.Proofs.Number.Nearest
import MetricFacade.Proofs.Number.Shortest
import MetricFacade.Proofs.Json.Numbers
import MetricFacade.Proofs.Json.Reading
import MetricFacade.Proofs.Description
import MetricFacade.Proofs.Reports
import MetricFacade.Proofs.LeftOut
import MetricFacade.Proofs.Number.Exact
import MetricFacade.Proofs.Rust.Literals
import MetricFacade.Proofs.Live.Ladder
import MetricFacade.Proofs.Rust.Outline
import MetricFacade.Proofs.Rust.Items
import MetricFacade.Proofs.Rust.Constructors
import MetricFacade.Proofs.Rust.Namespaces
import MetricFacade.Proofs.Agreement
import MetricFacade.Proofs.File.Tree
import MetricFacade.Proofs.Command.Footprint
import MetricFacade.Proofs.Command.Drivers
import MetricFacade.Proofs.Text.Lines
import MetricFacade.Proofs.Directives
import MetricFacade.Proofs.Canonical
import MetricFacade.Proofs.Bucket.Ladder
import MetricFacade.Proofs.Manifest.Record
import MetricFacade.Proofs.Manifest.RoundTrip
import MetricFacade.Live.Operation
import MetricFacade.Live.Process
import MetricFacade.Proofs.Live.Operation
import MetricFacade.Proofs.Live.Process
import MetricFacade.Proofs.Live.Accumulation
import MetricFacade.Proofs.Live.Independence
import MetricFacade.Proofs.Check.SharedNames
import MetricFacade.Proofs.Check.Warnings
import MetricFacade.Proofs.Check.MemberClashes
import MetricFacade.Proofs.Check.IllegalSpellings
import MetricFacade.Proofs.Check.FieldNames
import MetricFacade.Proofs.Rust.ParamCase
