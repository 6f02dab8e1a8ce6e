import LogLayout.Converter.Summary
import LogLayout.Main
import LogLayout.Proofs.Checked.Options
import LogLayout.Proofs.Checked.Rendering
import LogLayout.Proofs.Checked.Width
import LogLayout.Proofs.Config.Validation
import LogLayout.Proofs.Context
import LogLayout.Proofs.Event.Json
import LogLayout.Proofs.FieldWidth
import LogLayout.Proofs.Json
import LogLayout.Proofs.Json.Strings
import LogLayout.Proofs.Json.Tokens
import LogLayout.Proofs.Json.Written
import LogLayout.Proofs.Level
import LogLayout.Proofs.Logger
import LogLayout.Proofs.Noninterference
import LogLayout.Proofs.Pattern.Calls
import LogLayout.Proofs.Pattern.Concatenation
import LogLayout.Proofs.Pattern.Equals
import LogLayout.Proofs.Pattern.Merging
import LogLayout.Proofs.Pattern.Recovery
import LogLayout.Proofs.Pattern.Registration
import LogLayout.Proofs.Pattern.Reports
import LogLayout.Proofs.Pattern.Written
import LogLayout.Proofs.Stream.Capacity
import LogLayout.Proofs.Stream.Insertion
import LogLayout.Proofs.Stream.LineEndings
import LogLayout.Proofs.Text.Utf8
import LogLayout.Proofs.Workspace
