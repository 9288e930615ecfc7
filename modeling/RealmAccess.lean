import RealmAccess.Config.Source
import RealmAccess.Json
import RealmAccess.Logging.Subscriber
import RealmAccess.Proofs.Config.PrimaryRealm
import RealmAccess.Proofs.Config.StrictRules
import RealmAccess.Proofs.Reload.Order
import RealmAccess.Proofs.Ruling.FailClosed
import RealmAccess.Proofs.Ruling.Lookup
import RealmAccess.Proofs.Ruling.MissingContext
import RealmAccess.Proofs.Ruling.Rights
import RealmAccess.Proofs.Service.LastConfigured
import RealmAccess.Proofs.Service.Moves
import RealmAccess.Service.Command
import RealmAccess.Proofs.Ruling.Audit
import RealmAccess.Proofs.Ruling.Containment
import RealmAccess.Proofs.Service.Requests
import RealmAccess.Proofs.Worker.Clockwork
import RealmAccess.Proofs.Reload.Waiting
import RealmAccess.Proofs.Worker.Schedule
import RealmAccess.Proofs.Service.Clockwork
import RealmAccess.Proofs.Matrix.Rows
import RealmAccess.Proofs.Ruling.Confidentiality
import RealmAccess.Proofs.Config.Expansion
import RealmAccess.Proofs.Config.Encoding
import RealmAccess.Proofs.Config.Comment
import RealmAccess.Proofs.Action.Registration
import RealmAccess.Matrix.Encoding
import RealmAccess.Proofs.Logging.Precedence
import RealmAccess.Proofs.Matrix.Encoding
import RealmAccess.Proofs.Document.Places
import RealmAccess.Proofs.Document.Fields
import RealmAccess.Proofs.Config.Strictness
