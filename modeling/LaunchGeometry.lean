import LaunchGeometry.Allocation
import LaunchGeometry.Coords.Arithmetic
import LaunchGeometry.Coords.Basic
import LaunchGeometry.Coords.Bytes
import LaunchGeometry.Coords.Canonical
import LaunchGeometry.Coords.Json
import LaunchGeometry.Coords.RowMajor
import LaunchGeometry.Coords.Text
import LaunchGeometry.Dispatch
import LaunchGeometry.Erased
import LaunchGeometry.Event
import LaunchGeometry.Json
import LaunchGeometry.Launch.Basic
import LaunchGeometry.Launch.Check
import LaunchGeometry.Launch.Items
import LaunchGeometry.Launch.Slot
import LaunchGeometry.Launch.Text
import LaunchGeometry.Layout
import LaunchGeometry.Limits
import LaunchGeometry.PowerOfTwo
import LaunchGeometry.Proofs.Allocation.Alignment
import LaunchGeometry.Proofs.Allocation.Buckets
import LaunchGeometry.Proofs.Canonical.Construction
import LaunchGeometry.Proofs.Canonical.Coords
import LaunchGeometry.Proofs.Canonical.Launch
import LaunchGeometry.Proofs.Canonical.Positions
import LaunchGeometry.Proofs.Canonical.Trailing
import LaunchGeometry.Proofs.Canonical.Verdict
import LaunchGeometry.Proofs.Ceiling
import LaunchGeometry.Proofs.Forms.Bytes
import LaunchGeometry.Proofs.Forms.Display
import LaunchGeometry.Proofs.Forms.Json
import LaunchGeometry.Proofs.Forms.Text
import LaunchGeometry.Proofs.Launch.Construction
import LaunchGeometry.Proofs.Launch.Counts
import LaunchGeometry.Proofs.Launch.Cursor
import LaunchGeometry.Proofs.Launch.Dispatch
import LaunchGeometry.Proofs.Launch.DispatchLimits
import LaunchGeometry.Proofs.Launch.Enumeration
import LaunchGeometry.Proofs.Launch.Location
import LaunchGeometry.Proofs.Launch.Masking
import LaunchGeometry.Proofs.Launch.Multiples
import LaunchGeometry.Proofs.Launch.Padding
import LaunchGeometry.Proofs.Launch.Refusals
import LaunchGeometry.Proofs.Launch.Reports
import LaunchGeometry.Proofs.Launch.Session
import LaunchGeometry.Proofs.Launch.Slots
import LaunchGeometry.Proofs.Launch.Verdict
import LaunchGeometry.Proofs.Launch.Wrapping
import LaunchGeometry.Proofs.Limits.Capacity
import LaunchGeometry.Proofs.Limits.Distribution
import LaunchGeometry.Proofs.Limits.Filling
import LaunchGeometry.Proofs.PowerOfTwo
import LaunchGeometry.Proofs.Rounding
import LaunchGeometry.Proofs.RowMajor.Decoding
import LaunchGeometry.Proofs.RowMajor.Linearization
import LaunchGeometry.Proofs.RowMajor.Modular
import LaunchGeometry.Proofs.RowMajor.Order
import LaunchGeometry.Proofs.RowMajor.Size
import LaunchGeometry.Refusal
import LaunchGeometry.Rounding
import LaunchGeometry.Text
import LaunchGeometry.Traced
import LaunchGeometry.Word
