import Txing.Agent.ActivationBudget
import Txing.Agent.Drain
import Txing.Agent.LaunchFencing
import Txing.Agent.TerminalCleanup
import Txing.Agent.TerminationSafety
import Txing.Agent.WatchAgreement
import Txing.Board.ControlFencing
import Txing.Board.DatagramSplit
import Txing.Board.DriveWatchdog
import Txing.Board.McpControlLoss
import Txing.Board.SafeConfirmation
import Txing.Board.SafeQueue
import Txing.Board.StaleFrames
import Txing.CloudMcu.CommandRace
import Txing.CloudMcu.DeviceReports
import Txing.CloudMcu.WakeupRace
import Txing.Codec.DecodeSafety
import Txing.Codec.OfficeCommands
import Txing.Codec.OfficeReports
import Txing.Codec.SnapshotReports
import Txing.Hardware.FailSafe
import Txing.Office.LatestRunner
import Txing.Office.McpRequests
import Txing.Office.ShadowMerge
import Txing.Office.FlightCommands
import Txing.Rig.BoardEvidence
import Txing.Rig.CommandCorrelation
import Txing.Rig.Convergence
import Txing.Rig.Departure
import Txing.Rig.ManagerSequences
import Txing.Rig.NodeRest
import Txing.Rig.ReachableDevice
import Txing.Rig.ReceiverView
import Txing.Rig.RetainedDelivery
import Txing.Rig.SchedulerSafety
import Txing.Rig.SessionOrder
import Txing.Rig.ShadowDelivery
import Txing.Rig.SnapshotOrder
import Txing.Rig.TopicFilters
import Txing.Witness.ProjectionFold
import Txing.Witness.WatchSafety
