import TimeService.Lib.UpperBound
import TimeService.Lib.Transition
import TimeService.Lib.Budget
import TimeService.Lib.ClockSync
import TimeService.Lib.Run
import TimeService.Lib.RunningMax
import TimeService.Lib.Ledger
import TimeService.Lib.Survivors
import TimeService.Lib.AlarmTable
import TimeService.Lib.While
import TimeService.Lib.LockOrder
import TimeService.Lib.Wrapping
import TimeService.Lib.Bytes
import TimeService.Lib.Decimal
import TimeService.Lib.Joined
import TimeService.Lib.CString
import TimeService.Lib.FileSystem
import TimeService.Lib.Handles
import TimeService.Lib.Effects
import TimeService.Lib.Congruential
import TimeService.Timer.Info
import TimeService.Timer.SetHandler
import TimeService.Timer.Overflow
import TimeService.Timer.Batch
import TimeService.Timer.BatchHistory
import TimeService.Timer.Handler
import TimeService.Timer.Schedule
import TimeService.Timer.Trigger
import TimeService.Timer.Proxy
import TimeService.Timer.ProxyLedger
import TimeService.Timer.Manager
import TimeService.Timer.Firing
import TimeService.Timer.Cadence
import TimeService.Timer.Deadline
import TimeService.Timer.Agreement
import TimeService.Timer.Silence
import TimeService.Timer.Origin
import TimeService.Timer.Accounting
import TimeService.Timer.Order
import TimeService.Timer.KernelAlarm
import TimeService.Timer.OnTime
import TimeService.Timer.AlarmTable
import TimeService.Timer.OneShot
import TimeService.Timer.Drain
import TimeService.Timer.Start
import TimeService.Timer.Numbers
import TimeService.Timer.WallClock
import TimeService.Timer.Window
import TimeService.Timer.Rebatch
import TimeService.Timer.Wait
import TimeService.Zone.TimeZoneInfo
import TimeService.Zone.Persistence
import TimeService.Zone.TzSetting
import TimeService.Utils.FileUtils
import TimeService.Zone.Storage
import TimeService.Service.SystemTime
import TimeService.Service.SetTimeRuns
import TimeService.Service.RtcSelection
import TimeService.Ntp.SntpClient
import TimeService.Ntp.Timestamp
import TimeService.Ntp.Packet
import TimeService.Ntp.UpdateTime
import TimeService.Ntp.Reply
import TimeService.Ntp.TrustedTime
import TimeService.Ntp.AutoTime
import TimeService.Ntp.Nitz
import TimeService.Ntp.AutoTimeRecord
import TimeService.Ipc.Parcel
import TimeService.Ipc.Stub
import TimeService.Ipc.Requests
import TimeService.Ipc.Proxy
import TimeService.Ipc.Transparency
import TimeService.Service.TimerCalls
import TimeService.Client.TimerTables
import TimeService.Client.Notifications
import TimeService.Client.JsTimers
import TimeService.Client.JsCalls
import TimeService.Client.JsWorks
import TimeService.Client.Connection
import TimeService.Service.Locks
import TimeService.Service.ProxyCalls
import TimeService.Service.Access
import TimeService.Service.DumpCommands
import TimeService.Service.TimeTick
import TimeService.Service.Descriptors
import TimeService.Service.Lifecycle
