import FlatRecord.Naming
import FlatRecord.Descriptor.Validation
import FlatRecord.Descriptor.Payload
import FlatRecord.Generation
import FlatRecord.Admission
import FlatRecord.Loading
import FlatRecord.Cache
import FlatRecord.Binding
import FlatRecord.Marshalling
import FlatRecord.Rendering
import FlatRecord.Verification
import FlatRecord.Yaml.Meaning
import FlatRecord.Main
import FlatRecord.Proofs.Cache.Coherence
import FlatRecord.Proofs.Script.QuotedText
import FlatRecord.Proofs.Descriptor.MemberNames
import FlatRecord.Proofs.Descriptor.QualifiedNames
import FlatRecord.Proofs.Execution.Bindings
import FlatRecord.Proofs.Execution.Placed
import FlatRecord.Proofs.Generation.Admitted
import FlatRecord.Proofs.Generation.Executed
import FlatRecord.Proofs.Generation.Loaded
import FlatRecord.Proofs.Generation.Recovered
import FlatRecord.Proofs.Generation.Totality
import FlatRecord.Proofs.Cache.Transparency
import FlatRecord.Proofs.Admission.RecordForm
import FlatRecord.Proofs.Script.FittingTrees
import FlatRecord.Proofs.Admission.Checks
import FlatRecord.Proofs.Admission.Soundness
import FlatRecord.Proofs.Admission.StoredAttributes
import FlatRecord.Proofs.Admission.TrustedNames
import FlatRecord.Proofs.Calendar.StampText
import FlatRecord.Proofs.Generation.KeptValues
import FlatRecord.Proofs.Rendering.Bound
import FlatRecord.Proofs.Cache.Failures
import FlatRecord.Proofs.Descriptor.Acceptance
import FlatRecord.Proofs.Execution.SourceText
import FlatRecord.Proofs.Admission.AnnotationText
import FlatRecord.Proofs.Cache.FaultNames
import FlatRecord.Proofs.Generation.BrokenNames
import FlatRecord.Proofs.Rendering.Refinement
import FlatRecord.Proofs.Datum.TextKeys
import FlatRecord.Proofs.Verification.Schema
import FlatRecord.Proofs.Verification.Differences
import FlatRecord.Proofs.Rendering.Populated
import FlatRecord.Proofs.Rendering.Defaults
import FlatRecord.Proofs.Rendering.SpecialMethods
import FlatRecord.Proofs.Number.NumberParts
import FlatRecord.Proofs.Json.Numbers
import FlatRecord.Proofs.Json.Objects
import FlatRecord.Proofs.Calendar.IsoText
import FlatRecord.Proofs.Marshalling.ShownValues
import FlatRecord.Proofs.Marshalling.RoundTrip
import FlatRecord.Proofs.Generation.EqualSources
import FlatRecord.Proofs.Cache.Succession
import FlatRecord.Proofs.Cache.ContentBytes
import FlatRecord.Proofs.Cache.Occupancy
import FlatRecord.Proofs.Rendering.Recompiled
import FlatRecord.Proofs.Rendering.ValueEquality
import FlatRecord.Proofs.CommandLine.SavedSource
import FlatRecord.Proofs.CommandLine.ExitCodes
import FlatRecord.Proofs.Binding.CoercedValues
import FlatRecord.Proofs.Binding.InPlace
import FlatRecord.Proofs.Binding.KeyNames
import FlatRecord.Proofs.Binding.Accessors
import FlatRecord.Proofs.Rendering.TextForm
import FlatRecord.Proofs.Marshalling.CanonicalText
import FlatRecord.Proofs.Marshalling.XmlTexts
import FlatRecord.Proofs.Marshalling.PrettyOutput
import FlatRecord.Proofs.Marshalling.CompactOutput
import FlatRecord.Proofs.Binding.PayloadDefaults
import FlatRecord.Proofs.Marshalling.NullEntries
