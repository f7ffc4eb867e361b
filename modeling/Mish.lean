import Mish.Capture.Adoption
import Mish.Capture.UserConfiguration
import Mish.StateMachine.Retirement
import Mish.Capture.Cancellation
import Mish.Lifecycle.Intent
import Mish.Profile.Selection
import Mish.Capture.Reductions
import Mish.Capture.Attribution
import Mish.Profile.RuntimePolicy
import Mish.Profile.Routable
import Mish.Profile.Reconciliation
import Mish.Profile.PreviewUse
import Mish.Updater.Baseline
import Mish.ProfileActivation.Attribution
import Mish.ProfileActivation.Termination
import Mish.Traffic.Sequence
import Mish.TunService.CleanFailure
import Mish.Activation.Calls
import Mish.Updater.Recovery
import Mish.StateAuthority
import Mish.ProfileActivation.Shutdown
import Mish.TunService.InterfaceOwnership
import Mish.TunService.RequestGate
import Mish.RuntimeHost.Commands
import Mish.RpcClient.SessionAuthority
import Mish.Lifecycle.Observation
import Mish.MobileCore.Authority
import Mish.ControllerStatus
