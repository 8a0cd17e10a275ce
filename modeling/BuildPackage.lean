import BuildPackage.Text.Segments
import BuildPackage.Label.Basic
import BuildPackage.Text.Quoted
import BuildPackage.Path
import BuildPackage.Location
import BuildPackage.License
import BuildPackage.Wire.Schema
import BuildPackage.Wire.Layout
import BuildPackage.Attribute.OfWire
import BuildPackage.Visibility
import BuildPackage.Dialogue
import BuildPackage.MakeEnvironment
import BuildPackage.Event
import BuildPackage.Target.Basic
import BuildPackage.Package.OfWire
import BuildPackage.Inspect.Json
import BuildPackage.Inspect.Document
import BuildPackage.Inspect.Run
import BuildPackage.Main
import BuildPackage.Proofs.Builder.Addition
import BuildPackage.Proofs.Builder.NameTable
import BuildPackage.Proofs.Target.Rule
import BuildPackage.Proofs.Package.Acceptance
import BuildPackage.Proofs.Package.Boundary
import BuildPackage.Proofs.Package.Correspondence
import BuildPackage.Proofs.Wire.Reading
import BuildPackage.Proofs.Wire.Schema
import BuildPackage.Proofs.Package.Bytes
import BuildPackage.Package.Editing
import BuildPackage.Proofs.Builder.Editing
import BuildPackage.Proofs.Builder.Order
import BuildPackage.Proofs.Package.FirstFailure
import BuildPackage.Proofs.Attribute.Spelling
import BuildPackage.Proofs.Package.Spelling
import BuildPackage.Proofs.Package.Comparison
import BuildPackage.Proofs.Package.Extension
import BuildPackage.Proofs.Attribute.Provenance
import BuildPackage.Proofs.Package.Reordering
import BuildPackage.Proofs.Target.Provenance
import BuildPackage.Proofs.Package.Provenance
import BuildPackage.Proofs.Label.Grammar
import BuildPackage.Proofs.Label.RoundTrip
import BuildPackage.Proofs.Package.Events
import BuildPackage.Proofs.Path
import BuildPackage.Proofs.Inspect.Confinement
import BuildPackage.Proofs.Package.Subpackages
import BuildPackage.Proofs.MakeEnvironment
import BuildPackage.Proofs.Attribute.Payload
import BuildPackage.Proofs.Text.ByteOrder
import BuildPackage.Proofs.Package.Outputs
import BuildPackage.Proofs.Target.PackageGroup
import BuildPackage.Proofs.License.Sets
import BuildPackage.Proofs.License.RoundTrip
import BuildPackage.Proofs.Package.Resolution
import BuildPackage.Proofs.Path.Parent
import BuildPackage.Proofs.Package.Subincludes
import BuildPackage.Proofs.Attribute.Fileset
import BuildPackage.Proofs.Package.OwnLabels
import BuildPackage.Proofs.Package.DefaultVisibility
import BuildPackage.Proofs.Visibility
import BuildPackage.Proofs.Glob
import BuildPackage.Proofs.Inspect.Registry
import BuildPackage.Proofs.Inspect.Modes
