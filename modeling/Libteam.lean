import Libteam.Spec.Basic
import Libteam.Spec.Netlink
import Libteam.Spec.Handle
import Libteam.Spec.ChangeHandlers
import Libteam.Spec.Ports
import Libteam.Spec.Options
import Libteam.Spec.Context
import Libteam.Spec.SetOption
import Libteam.Spec.Log
import Libteam.Spec.Link
import Libteam.Proofs.Decode
import Libteam.Proofs.Dispatch
import Libteam.Proofs.Handlers
import Libteam.Proofs.System
import Libteam.Proofs.Registries
import Libteam.Proofs.Memory
import Libteam.Proofs.Faults
import Libteam.Proofs.SetOption
import Libteam.Proofs.ReturnCodes
import Libteam.Proofs.Log
