import ContainerStack.Definition.Document
import ContainerStack.Inspection
import ContainerStack.Proofs.Files
import ContainerStack.Proofs.NameKeys
import ContainerStack.Proofs.Rearranging
import ContainerStack.Proofs.Refusals
import ContainerStack.Proofs.Rendering
import ContainerStack.Proofs.Stages
import ContainerStack.Proofs.Templates
import ContainerStack.Proofs.ScriptLines
import ContainerStack.Proofs.Growth
import ContainerStack.Proofs.MainService
import ContainerStack.Proofs.ManifestLines
import ContainerStack.Proofs.Locality
import ContainerStack.Proofs.Alternatives
import ContainerStack.Proofs.Interleaving
import ContainerStack.Proofs.Sections
import ContainerStack.Proofs.Retyping
import ContainerStack.Proofs.GlobalArguments
import ContainerStack.Proofs.ManagedOutside
import ContainerStack.Proofs.Representation
import ContainerStack.Proofs.LineEnds
import ContainerStack.Proofs.MountReading
import ContainerStack.Proofs.RunningAccount
import ContainerStack.Proofs.CopyReading
import ContainerStack.Proofs.Ownership
import ContainerStack.Proofs.WordReading
import ContainerStack.Proofs.SharedSettings
import ContainerStack.Proofs.Ports
import ContainerStack.Proofs.LoggingOptions
import ContainerStack.Proofs.VolumeOptions
import ContainerStack.Proofs.AddressPools
import ContainerStack.Proofs.MemoryVolumes
import ContainerStack.Proofs.RenderTurns
import ContainerStack.Proofs.AccountChecks
import ContainerStack.Proofs.Healthchecks
import ContainerStack.Proofs.Dependencies
import ContainerStack.Proofs.GroupTests
import ContainerStack.Proofs.ScalarForms
import ContainerStack.Proofs.LayoutEvents
import ContainerStack.Proofs.OptionRequests
import ContainerStack.Proofs.Quantities
