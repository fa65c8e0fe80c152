import TwoSpirals.Main
import TwoSpirals.Disk
import TwoSpirals.Report.Reader
import TwoSpirals.Proofs.Batch
import TwoSpirals.Proofs.Command.Dataset
import TwoSpirals.Proofs.Command.Evaluate
import TwoSpirals.Proofs.Command.Predict
import TwoSpirals.Proofs.Command.Tool
import TwoSpirals.Proofs.Disk
import TwoSpirals.Proofs.Extent
import TwoSpirals.Proofs.Files
import TwoSpirals.Proofs.Frozen
import TwoSpirals.Proofs.Guard
import TwoSpirals.Proofs.Idle
import TwoSpirals.Proofs.Lockstep
import TwoSpirals.Proofs.PointFiles
import TwoSpirals.Proofs.Range
import TwoSpirals.Proofs.Record
import TwoSpirals.Proofs.Report
import TwoSpirals.Proofs.Report.Text
import TwoSpirals.Proofs.Run
import TwoSpirals.Proofs.Saturation
import TwoSpirals.Proofs.Settings
import TwoSpirals.Proofs.Single.Order
import TwoSpirals.Proofs.Spiral
import TwoSpirals.Proofs.Trace
import TwoSpirals.Proofs.ZeroSign
import TwoSpirals.Proofs.Listing
import TwoSpirals.Proofs.Double.Fixed
import TwoSpirals.Proofs.Point
import TwoSpirals.Proofs.Mirror
import TwoSpirals.Proofs.Command.Inspect
