import CallDescriptor.Json.Reader
import CallDescriptor.Layout
import CallDescriptor.Main
import CallDescriptor.Proofs.Assignment
import CallDescriptor.Proofs.Events
import CallDescriptor.Proofs.Guarded.NeverStuck
import CallDescriptor.Proofs.Layout.ReadBack
import CallDescriptor.Proofs.Layout.WriteBack
import CallDescriptor.Proofs.Options
import CallDescriptor.Proofs.Report.Text
import CallDescriptor.Proofs.CommandLine.Spelling
import CallDescriptor.Proofs.Log
import CallDescriptor.Proofs.Observers
import CallDescriptor.Proofs.Representation
import CallDescriptor.Proofs.Stages
import CallDescriptor.Proofs.Unread
import CallDescriptor.Proofs.Verdict
import CallDescriptor.Proofs.Json.Tokens
import CallDescriptor.Proofs.Json.ReadBack
import CallDescriptor.Proofs.CallConfig.Forms
import CallDescriptor.Proofs.Report.Data
import CallDescriptor.Proofs.Filler.Agreement
import CallDescriptor.Proofs.Settings.Keys
import CallDescriptor.Proofs.Bitmap.Sparse
import CallDescriptor.Proofs.Toml.Keys
import CallDescriptor.Proofs.Settings.Apart
import CallDescriptor.Proofs.CallConfig.AnyForm
import CallDescriptor.Proofs.Filler.Trim
import CallDescriptor.Proofs.Report.Echo
import CallDescriptor.Proofs.Settings.Names
