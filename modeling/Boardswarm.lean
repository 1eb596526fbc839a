import Boardswarm.Registry
import Boardswarm.DeviceItem
import Boardswarm.Device
import Boardswarm.SetMode
import Boardswarm.Engine
import Boardswarm.Bindings
import Boardswarm.Replay
import Boardswarm.Configure
import Boardswarm.ItemMonitor
import Boardswarm.ClientStreams
import Boardswarm.DeviceTasks
import Boardswarm.Service
import Boardswarm.Provenance
import Boardswarm.Announce
import Boardswarm.Modes
import Boardswarm.Notifier
import Boardswarm.DeviceInfo
