import SyrFilter.Lib.Runs
import SyrFilter.Rtos
import SyrFilter.Moto.Machine
import SyrFilter.Moto.Bridge
import SyrFilter.Moto.Drive
import SyrFilter.Moto.Watchdog
import SyrFilter.Storage.Flash
import SyrFilter.Lib.Decimal
import SyrFilter.Sprintf
import SyrFilter.Storage.Env
import SyrFilter.Storage.Settings
import SyrFilter.Storage.Persistence
import SyrFilter.Lib.Framing
import SyrFilter.Lib.Memory
import SyrFilter.Lib.Ring
import SyrFilter.Uart.Bounds
import SyrFilter.Uart.Stream
import SyrFilter.Display.Backwash
import SyrFilter.Ota.Completion
import SyrFilter.Ota.Transfer
import SyrFilter.Uart.Isolation
import SyrFilter.Uart.Stray
import SyrFilter.Display.Counters
import SyrFilter.Display.Reports
import SyrFilter.Lib.Scanning
import SyrFilter.Rtc.Clock
import SyrFilter.Rtc.Elapsed
import SyrFilter.Rtc.Intervals
import SyrFilter.Tds.Queue
import SyrFilter.Tds.Scan
import SyrFilter.Tds.Service
import SyrFilter.Tds.Memcpy
import SyrFilter.Uart.Acknowledge
import SyrFilter.Uart.Queue
import SyrFilter.Moto.SleepLock
import SyrFilter.Rtc.Legal
import SyrFilter.Lib.Mailbox
import SyrFilter.Telemetry.Ticks
import SyrFilter.Telemetry.Supply
import SyrFilter.Telemetry.AccessPoint
import SyrFilter.Telemetry.Reports
import SyrFilter.Display.Pause
import SyrFilter.Display.Update
import SyrFilter.Display.Connecting
import SyrFilter.Lib.Changes
import SyrFilter.Telemetry.Alarm
import SyrFilter.Telemetry.Lockout
import SyrFilter.Rtc.Periods
import SyrFilter.Uart.DataPoints
import SyrFilter.Uart.Resync
import SyrFilter.Ota.FailedStart
import SyrFilter.Telemetry.Payloads
import SyrFilter.Lib.History
import SyrFilter.Lib.Stacks
import SyrFilter.Display.Menu
import SyrFilter.Display.Steady
import SyrFilter.Display.Confirm
import SyrFilter.Display.Highlight
import SyrFilter.Display.Selection
import SyrFilter.Display.Texts
import SyrFilter.Display.Sites
import SyrFilter.Lib.Transducer
import SyrFilter.Keys.Button
import SyrFilter.Keys.Gesture
import SyrFilter.Keys.Holds
import SyrFilter.Keys.Reports
import SyrFilter.Panel.Lcd
import SyrFilter.Panel.Keys
import SyrFilter.Panel.LongPress
import SyrFilter.Lib.LossyRing
import SyrFilter.Serial.Port
import SyrFilter.Serial.Delivery
import SyrFilter.Serial.Wakeup
import SyrFilter.Serial.Link
import SyrFilter.Led.Agile
import SyrFilter.Led.Blink
import SyrFilter.Led.Select
import SyrFilter.Led.Cycle
import SyrFilter.Lib.Chunks
import SyrFilter.Lib.Nor
import SyrFilter.Lib.Words
import SyrFilter.Lib.Walk
import SyrFilter.Lib.Bag
import SyrFilter.Lib.Services
import SyrFilter.Ef.Status
import SyrFilter.Ef.Crc
import SyrFilter.Ef.Scan
import SyrFilter.Ef.Cache
import SyrFilter.Ef.Entry
import SyrFilter.Ef.Sectors
import SyrFilter.Ef.Engine
import SyrFilter.Ef.Area
import SyrFilter.Ef.Loops
import SyrFilter.Ef.Alloc
import SyrFilter.Ef.Lookup
import SyrFilter.Ef.Writes
import SyrFilter.Ef.Steps
import SyrFilter.Ef.Collect
import SyrFilter.Ef.Setting
import SyrFilter.Ef.Boot
import SyrFilter.Ef.Service
import SyrFilter.Storage.Chip
import SyrFilter.Lib.Halting
import SyrFilter.Lib.Orbits
import SyrFilter.Moto.Calls
import SyrFilter.Moto.Stops
import SyrFilter.Display.Stops
import SyrFilter.Uart.Serving
