import ClientGen.Api.Decode
import ClientGen.Disk.Listing
import ClientGen.Main
import ClientGen.Proofs.Edition.Agreement
import ClientGen.Proofs.Controllers.Imports
import ClientGen.Proofs.Json.Occurrence
import ClientGen.Proofs.Schema.References
import ClientGen.Proofs.Schema.Declared
import ClientGen.Proofs.Schema.Nesting
import ClientGen.Proofs.Schema.Blocks
import ClientGen.Proofs.Schema.PropertyNames
import ClientGen.Proofs.Schema.Enumerations
import ClientGen.Proofs.Api.References
import ClientGen.Proofs.Output.ControllerText
import ClientGen.Proofs.Output.ModelText
import ClientGen.Proofs.Output.RequestUrl
import ClientGen.Proofs.Disk.Names
import ClientGen.Proofs.Disk.Places
import ClientGen.Proofs.Disk.Frame
import ClientGen.Proofs.Output.Containment
import ClientGen.Proofs.Disk.Additions
import ClientGen.Proofs.Disk.Tree
import ClientGen.Proofs.Preparation
import ClientGen.Proofs.Output.Files
import ClientGen.Proofs.Output.Writing
import ClientGen.Proofs.Output.Effect
import ClientGen.Proofs.Disk.Congruence
import ClientGen.Proofs.Disk.Aside
import ClientGen.Proofs.Disk.Grounded
import ClientGen.Proofs.Template.Search
import ClientGen.Proofs.Output.Emptying
import ClientGen.Proofs.Output.SecondRun
import ClientGen.Proofs.Output.Regeneration
import ClientGen.Proofs.CommandLine.FirstRun
import ClientGen.Proofs.CommandLine.Batch
import ClientGen.Proofs.Document.Parts
import ClientGen.Proofs.Controllers.Likeness
import ClientGen.Proofs.Controllers.Expansion
import ClientGen.Proofs.Controllers.Growth
import ClientGen.Proofs.Controllers.Matching
import ClientGen.Proofs.Controllers.Numbering
import ClientGen.Proofs.Controllers.Arrangement
import ClientGen.Proofs.Controllers.DeclaredTags
import ClientGen.Proofs.Controllers.Reordering
import ClientGen.Proofs.Controllers.Renaming
import ClientGen.Proofs.Controllers.Descriptions
import ClientGen.Proofs.Api.FreeText
import ClientGen.Proofs.Controllers.Identifiers
import ClientGen.Proofs.Output.Signature
import ClientGen.Proofs.Text.CaseStyle
