import Conform.Main
import Conform.Proofs.Catalog.Transparency
import Conform.Proofs.Command.Consistency
import Conform.Proofs.Definition.Constants
import Conform.Proofs.Definition.Dates
import Conform.Proofs.Definition.Listed
import Conform.Proofs.Definition.Localisation
import Conform.Proofs.Definition.Lookups
import Conform.Proofs.Definition.Meaning
import Conform.Proofs.Definition.Requirement
import Conform.Proofs.Instant.RoundTrip
import Conform.Proofs.Schema.Agreement
import Conform.Proofs.Schema.Attribution
import Conform.Proofs.Schema.Following
import Conform.Proofs.Schema.Homogeneous
import Conform.Proofs.Schema.MappedValue
import Conform.Proofs.Schema.Missing
import Conform.Proofs.Schema.Presence
import Conform.Proofs.Schema.Properties
import Conform.Proofs.Schema.Recursion
import Conform.Proofs.Schema.Relaxation
import Conform.Proofs.Schema.Rules
import Conform.Proofs.Schema.Totality
import Conform.Proofs.Schema.Unions
import Conform.Proofs.Schema.Verdict
import Conform.Proofs.Source.Reading
import Conform.Proofs.Source.Resolution
import Conform.Proofs.Value.RoundTrip
