import ComputeGrid.Digest.Sha2
import ComputeGrid.Json.Writer
import ComputeGrid.Text.Hex
import ComputeGrid.Workload.Codec

/-!
# The content of a workload

The content is all that a caller chooses but the version: name, payload, metadata and description. Two workloads with
equal content ask for the same thing.
-/

namespace ComputeGrid.Workload

/-- The content as JSON. -/
def content (w : Workload) : Json :=
  .object [("name", .string w.name), ("data", w.payload.toJson), ("metadata", .string w.metadata),
    ("description", .string w.description)]

/-- The bytes that the content hash covers. -/
def contentBytes (w : Workload) : List UInt8 := w.content.renderBytes

/-- The digest of the content in hexadecimal. -/
def contentHash (w : Workload) : String := Text.hex (Sha2.sha256 w.contentBytes)

end ComputeGrid.Workload
