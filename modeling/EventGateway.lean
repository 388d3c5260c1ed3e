import EventGateway.Main
import EventGateway.Files.System
import EventGateway.Proofs.Context
import EventGateway.Proofs.Trace
import EventGateway.Proofs.Lookup
import EventGateway.Proofs.Naming
import EventGateway.Proofs.Outcome
import EventGateway.Proofs.PlainPass
import EventGateway.Proofs.Pass
import EventGateway.Proofs.Contribution
import EventGateway.Proofs.Composition
import EventGateway.Proofs.Outline
import EventGateway.Proofs.ClosedDescriptor
import EventGateway.Proofs.ServiceNames
import EventGateway.Proofs.Splitting
import EventGateway.Proofs.ImportKey
import EventGateway.Proofs.Pins
import EventGateway.Proofs.UsedModules
import EventGateway.Proofs.VersionedImports
import EventGateway.Proofs.PinnedModules
import EventGateway.Proofs.Ports
import EventGateway.Proofs.Templates
import EventGateway.Proofs.TemplateRuns
import EventGateway.Proofs.TemplateRoundTrip
import EventGateway.Proofs.TemplateReplacement
import EventGateway.Proofs.Evaluation
import EventGateway.Proofs.Connection
import EventGateway.Proofs.PropertyReferences
import EventGateway.Proofs.ConnectionValues
import EventGateway.Proofs.FileSystem
import EventGateway.Proofs.FileChanges
import EventGateway.Proofs.Staging
import EventGateway.Proofs.Generation
import EventGateway.Proofs.Installation
import EventGateway.Proofs.Integers
import EventGateway.Proofs.Faults
import EventGateway.Proofs.RoleInversion
import EventGateway.Proofs.PropertyNames
import EventGateway.Proofs.Isolation
import EventGateway.Proofs.Irrelevance
import EventGateway.Proofs.Layouts
import EventGateway.Proofs.Growth
import EventGateway.Proofs.ValueParts
import EventGateway.Proofs.BindingDefects
import EventGateway.Proofs.PrintedJson
import EventGateway.Proofs.EmbeddedDescriptor
import EventGateway.Proofs.PrintedJsonReading
import EventGateway.Proofs.Drafts
import EventGateway.Proofs.Records
import EventGateway.Proofs.DescriptorReading
import EventGateway.Proofs.DocumentReading
import EventGateway.Proofs.SecuritySettings
import EventGateway.Proofs.Security
import EventGateway.Proofs.Destinations
