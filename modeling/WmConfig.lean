import WmConfig.Main
import WmConfig.Platform.Recorded
import WmConfig.Proofs.Settings.RoundTrip
import WmConfig.X11.Display
import WmConfig.X11.Simulated
import WmConfig.Proofs.Text.Bytes
import WmConfig.Proofs.Number.Order
import WmConfig.Proofs.Settings.Reports
import WmConfig.Proofs.Session.Course
import WmConfig.Proofs.Session.Rules
import WmConfig.Proofs.Session.Equality
import WmConfig.Proofs.Session.Calls
import WmConfig.Proofs.Session.Invariant
import WmConfig.Proofs.Session.Sources
import WmConfig.Proofs.Pattern.Pieces
import WmConfig.Proofs.Pattern.Plain
import WmConfig.Proofs.Pattern.Reading
import WmConfig.Proofs.Session.Finding
import WmConfig.Proofs.Color
import WmConfig.Proofs.Keyboard
import WmConfig.Proofs.Keysym
import WmConfig.Proofs.Keysym.Codes
import WmConfig.Proofs.Font.Families
import WmConfig.Proofs.Font.Sizes
import WmConfig.Proofs.Session.Acquisition
import WmConfig.Proofs.X11.Dialogues
import WmConfig.Proofs.X11.Exchanges
import WmConfig.Proofs.X11.NumLock
import WmConfig.Proofs.X11.Runs
import WmConfig.Proofs.Session.Accounting
import WmConfig.Proofs.Session.Unknown
import WmConfig.Proofs.Settings.LineEnds
import WmConfig.Proofs.Toml.Continuation
import WmConfig.Proofs.Settings.Appended
import WmConfig.Proofs.Settings.Doubled
import WmConfig.Proofs.Settings.Forms
import WmConfig.Proofs.Settings.Integers
import WmConfig.Proofs.Settings.Texts
