import OmarchySync.Logic.Traced
import OmarchySync.Wire.Json
import OmarchySync.Channel
import OmarchySync.Loopback
import OmarchySync.Trust.Host
import OmarchySync.Trust.Runs
import OmarchySync.Trust.Binding
import OmarchySync.Trust.Lifecycle
import OmarchySync.Trust.Agreement
import OmarchySync.Trust.Activation
import OmarchySync.Pairing.Authentication
import OmarchySync.Runtime.Message
import OmarchySync.Runtime.Completeness
import OmarchySync.Runtime.NoHalfTrust
import OmarchySync.Announcement
import OmarchySync.Pairing.Format
import OmarchySync.Pairing.SignedMessage
import OmarchySync.Discovery
import OmarchySync.Pairing.SingleHandshake
import OmarchySync.Pairing.Start
import OmarchySync.Trust.Revocation
import OmarchySync.Trust.Capability
import OmarchySync.Runtime.Established
import OmarchySync.Runtime.Prompt
import OmarchySync.Runtime.Coordinator
import OmarchySync.Runtime.Spacing
import OmarchySync.Trust.Order
import OmarchySync.Advertise
import OmarchySync.IdentityFile
import OmarchySync.Grants
import OmarchySync.Trust.Size
import OmarchySync.Runtime.Convergence
import OmarchySync.Runtime.Rivals
