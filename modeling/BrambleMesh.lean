import BrambleMesh.IdentityAnchor
import BrambleMesh.NextHop
import BrambleMesh.ControlReplay
import BrambleMesh.DutyCycle
import BrambleMesh.CivilDate
import BrambleMesh.CoarseLocation
import BrambleMesh.EmuLink
import BrambleMesh.Reassembly
import BrambleMesh.TextIntegrity
import BrambleMesh.DmAuthenticity
import BrambleMesh.RequestFlood
import BrambleMesh.LoopFree
import BrambleMesh.HopCount
import BrambleMesh.DmPins
import BrambleMesh.DmRekey
import BrambleMesh.MsgHistory
import BrambleMesh.DmContinuity
import BrambleMesh.ChannelPersist
import BrambleMesh.HopRetry
import BrambleMesh.Suppression
import BrambleMesh.BeaconBudget
import BrambleMesh.DiscoveryRetry
import BrambleMesh.DmSendFailures
import BrambleMesh.Confirmations
import BrambleMesh.OtaRollback
import BrambleMesh.ParkedRetry
import BrambleMesh.ReplayPersist
import BrambleMesh.BeaconTime
import BrambleMesh.BleLines
import BrambleMesh.BleRpc
import BrambleMesh.ChannelConfirm
import BrambleMesh.DeliveryEvents
import BrambleMesh.IdentityReload
import BrambleMesh.IdentityTofu
import BrambleMesh.FirstContact
import BrambleMesh.Semver
import BrambleMesh.DmEpochGrace
import BrambleMesh.SerialJson
import BrambleMesh.AckLiveness
import BrambleMesh.HandshakeLimits
import BrambleMesh.Mailbox
import BrambleMesh.ParkedRows
import BrambleMesh.Purges
import BrambleMesh.RouteClasses
import BrambleMesh.TimeQuorum
import BrambleMesh.RetryLimits
import BrambleMesh.BroadcastRecipients
import BrambleMesh.ChannelCatchup
import BrambleMesh.RollcallPaths
