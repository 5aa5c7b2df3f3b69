import LastGood.Config.File
import LastGood.Config.Yaml
import LastGood.Json.Reader
import LastGood.Main
import LastGood.Program
import LastGood.Proofs.Cache.Bisimulation
import LastGood.Proofs.Cache.Delivery
import LastGood.Proofs.Cache.HealthLog
import LastGood.Proofs.Cache.Isolation
import LastGood.Proofs.Cache.LastKnownGood
import LastGood.Proofs.Config.FromFile
import LastGood.Proofs.Config.Leaves
import LastGood.Proofs.Config.Parts
import LastGood.Proofs.Config.PipelineEdits
import LastGood.Proofs.Config.RoundTrip
import LastGood.Proofs.Disk.Beside
import LastGood.Proofs.Disk.Outside
import LastGood.Proofs.Program.Commands
import LastGood.Proofs.Scheduler.Periodic
import LastGood.Proofs.Session.Clients
import LastGood.Proofs.Session.Confinement
import LastGood.Proofs.Session.Drafts
import LastGood.Proofs.Session.Echo
import LastGood.Proofs.Session.Editing
import LastGood.Proofs.Session.FailedWrites
import LastGood.Proofs.Session.Guards
import LastGood.Proofs.Session.Shortcut
import LastGood.Proofs.Session.Validity
import LastGood.Proofs.Session.Watching
import LastGood.Proofs.Store.Leftover
import LastGood.Proofs.Store.Migration
import LastGood.Proofs.Store.SecondFile
import LastGood.Proofs.Store.Skipping
import LastGood.Proofs.Tree.Marks
import LastGood.Proofs.Tree.Ordered
import LastGood.Proofs.Tree.Overlay
import LastGood.Proofs.Tree.Parts
import LastGood.Store.Scripted
import LastGood.Proofs.Config.Overriding
import LastGood.Proofs.Yaml.Ordered
import LastGood.Proofs.Config.Spelling
import LastGood.Proofs.Config.Defaults
import LastGood.Proofs.Json.Extended
import LastGood.Proofs.Json.Forms
