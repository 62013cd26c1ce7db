import ApiGuide.Service.Answer
import ApiGuide.Proofs.Signature.Parts
import ApiGuide.Proofs.Text.Surrogate
import ApiGuide.Proofs.Signature.RoundTrip
import ApiGuide.Proofs.Context.Call
import ApiGuide.Proofs.Context.Run
import ApiGuide.Proofs.Context.Word
import ApiGuide.Proofs.Guide.SignatureHelp
import ApiGuide.Proofs.Guide.Typing
import ApiGuide.Proofs.Guide.Hover
import ApiGuide.Proofs.Guide.Lookup
import ApiGuide.Proofs.Guide.Completion
import ApiGuide.Proofs.Guide.Document
import ApiGuide.Proofs.Guide.Load
import ApiGuide.Proofs.Catalog.Shape
import ApiGuide.Proofs.Catalog.RoundTrip
import ApiGuide.Proofs.Service.Confidential
import ApiGuide.Proofs.Service.Export
import ApiGuide.Proofs.Service.Sending
import ApiGuide.Proofs.Guide.Sending
import ApiGuide.Proofs.Service.Status
import ApiGuide.Proofs.Service.Failure
import ApiGuide.Proofs.Signature.Annotation
import ApiGuide.Proofs.Signature.Name
import ApiGuide.Proofs.Signature.WellFormed
import ApiGuide.Proofs.Catalog.Reorder
import ApiGuide.Proofs.Payload.Order
import ApiGuide.Proofs.Payload.Shown
import ApiGuide.Proofs.Payload.Snippet
import ApiGuide.Proofs.Signature.Sequence
import ApiGuide.Proofs.Signature.FirstPair
import ApiGuide.Proofs.Text.Pattern
import ApiGuide.Proofs.Catalog.Clean
import ApiGuide.Proofs.Context.Dotted
import ApiGuide.Proofs.Guide.Agreement
import ApiGuide.Proofs.Service.Origins
import ApiGuide.Proofs.Signature.Pattern
