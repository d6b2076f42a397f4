import XPathExtension.Text.Alphabetic
import XPathExtension.Text.Blank
import XPathExtension.Text.Escaped
import XPathExtension.Native.HostType
import XPathExtension.Item
import XPathExtension.Atomic.Text
import XPathExtension.Calendar.Reader
import XPathExtension.Calendar.Text
import XPathExtension.Namespaces
import XPathExtension.Name.Lexical
import XPathExtension.Binary.Arithmetic
import XPathExtension.Binary.Text
import XPathExtension.Declaration.Reader
import XPathExtension.SequenceType.Text
import XPathExtension.SequenceType.Inference
import XPathExtension.Conversion.Slot
import XPathExtension.Options
import XPathExtension.Uri
import XPathExtension.Overload
import XPathExtension.Dependency
import XPathExtension.Function.Overrides
import XPathExtension.Plan
import XPathExtension.Engine
import XPathExtension.ModuleStore
import XPathExtension.Catalog
import XPathExtension.Native.Passage
import XPathExtension.Native.ReturnType
import XPathExtension.Proofs.Receiving
import XPathExtension.Proofs.ResultTyping
import XPathExtension.Proofs.Conformance
import XPathExtension.Proofs.EndToEnd
import XPathExtension.Proofs.Gating
import XPathExtension.Proofs.Transparency
import XPathExtension.Proofs.Redeclaring
import XPathExtension.Proofs.Recasting
import XPathExtension.Proofs.IntegralCasts
import XPathExtension.Proofs.Digits
import XPathExtension.Proofs.Nearest
import XPathExtension.Proofs.Numerals
import XPathExtension.Proofs.CalendarTexts
import XPathExtension.Proofs.LexicalForms
import XPathExtension.Proofs.DateTexts
import XPathExtension.Proofs.CastFaults
import XPathExtension.Proofs.NodeArguments
import XPathExtension.Proofs.Absence
import XPathExtension.Generation
import XPathExtension.Instantiation
import XPathExtension.CandidateTable
import XPathExtension.Proofs.Generating
import XPathExtension.Proofs.Acceptance
import XPathExtension.Proofs.Isolation
import XPathExtension.Proofs.Resolution
import XPathExtension.Proofs.Reordering
import XPathExtension.Proofs.Refusal
import XPathExtension.Proofs.Warnings
import XPathExtension.Proofs.Shadowing
import XPathExtension.Proofs.Plans
import XPathExtension.Proofs.CallNamespaces
import XPathExtension.Proofs.Flattening
import XPathExtension.Proofs.Decoding
import XPathExtension.Proofs.Validity
import XPathExtension.Proofs.Injection
import XPathExtension.Proofs.Enforcement
import XPathExtension.Proofs.NameReaders
import XPathExtension.Proofs.DistinctTexts
import XPathExtension.Proofs.DecimalSpace
import XPathExtension.Proofs.DocumentOrder
