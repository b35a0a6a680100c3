import SummitSom.Interact.Program
import SummitSom.Interact.Life
import SummitSom.Interact.Steps
import SummitSom.Interact.Calls
import SummitSom.Interact.Threads
import SummitSom.Interact.Determined
import SummitSom.Shell.Words
import SummitSom.Shell.Read
import SummitSom.Shell.Sed
import SummitSom.Shell.Quoted
import SummitSom.Update.FwUpdate
import SummitSom.Update.FwCommands
import SummitSom.Update.FlashGuard
import SummitSom.Update.Notification
import SummitSom.Update.FactoryTest
import SummitSom.Update.SwDescription
import SummitSom.Update.CrashSafety
import SummitSom.Data.MountData
import SummitSom.Data.DataTree
import SummitSom.Data.FactoryReset
import SummitSom.Data.ResetSteps
import SummitSom.Data.ResetRuns
import SummitSom.Boot.RootSide
import SummitSom.Boot.SideDetection
import SummitSom.Migration.EraseData
import SummitSom.Migration.Release
import SummitSom.Migration.Completeness
import SummitSom.Bluez.ConnInfo
import SummitSom.Automount.UsbMount
import SummitSom.Automount.MountPoints
import SummitSom.Automount.Confinement
import SummitSom.Chase.Walk
import SummitSom.Timedate.TimeZone
import SummitSom.Timedate.LinkWalk
import SummitSom.Print.Page
import SummitSom.Gpio.StatusShow
import SummitSom.Cstr.Strings
import SummitSom.Cstr.Scan
import SummitSom.Boot.BoardVariant
import SummitSom.Pac193x.Registers
import SummitSom.Pac193x.Energy
import SummitSom.Pac193x.Driver
import SummitSom.Pac193x.Freshness
import SummitSom.Pac193x.Refresh
import SummitSom.Pac193x.SkipLayout
import SummitSom.Pac193x.Attributes
import SummitSom.Pac193x.EnergyRange
import SummitSom.Pac193x.Scales
import SummitSom.Pac193x.DeviceTree
import SummitSom.Crc.Reflected
import SummitSom.Crc.Burst
import SummitSom.Lookup.Thresholds
import SummitSom.UbootEnv.Crc32
import SummitSom.UbootEnv.CrcTable
import SummitSom.UbootEnv.BurstErrors
import SummitSom.UbootEnv.MtdNames
import SummitSom.UbootEnv.Store
import SummitSom.Charger.Bq25790
import SummitSom.Charger.Probing
import SummitSom.Charger.Limits
import SummitSom.Charger.Requests
import SummitSom.Charger.Settings
import SummitSom.Charger.Watchdog
import SummitSom.Charger.TwoRegisters
import SummitSom.Pac193x.Footprint
import SummitSom.Pac193x.Divisors
import SummitSom.Clock.Counter
import SummitSom.Pac193x.RateWrite
import SummitSom.Pac193x.RateEffect
import SummitSom.Pac193x.ShuntFormat
import SummitSom.Pac193x.Removal
import SummitSom.Pac193x.Probe
import SummitSom.Pac193x.ProbeRuns
import SummitSom.Bytes.Memory
import SummitSom.Hub.Otp
import SummitSom.Hub.Index
import SummitSom.Hub.Programming
import SummitSom.Hub.Growth
import SummitSom.Hub.Verification
import SummitSom.Automount.BlkidFields
import SummitSom.Cstr.Numbers
import SummitSom.Flash.AtmelAttribute
import SummitSom.Hub.Control
import SummitSom.Hub.I2cClock
import SummitSom.Clock.Divider
import SummitSom.Hub.Baud
import SummitSom.Hub.I2cBridge
import SummitSom.Hub.UartWrite
import SummitSom.Bytes.Word
import SummitSom.Hub.GpioPins
import SummitSom.Hub.SpiProgram
import SummitSom.Bytes.Blocks
import SummitSom.Hub.SpiRead
import SummitSom.Hub.OpenBridge
import SummitSom.Hub.OpenId
import SummitSom.Marks.Pieces
import SummitSom.Tls.ClientCertName
import SummitSom.Hub.SpiContent
import SummitSom.Charger.ChipState
import SummitSom.UsbGadget.Script
import SummitSom.UsbGadget.Lifecycle
import SummitSom.UsbGadget.Startup
import SummitSom.Boot.ConfName
import SummitSom.EchoTest.Protocol
import SummitSom.EchoTest.Completion
import SummitSom.Boot.Environment
import SummitSom.Bytes.Fixed
import SummitSom.Hub.ConfigureGpio
import SummitSom.Dts.Source
import SummitSom.Fit.Assemble
import SummitSom.Fit.Closed
import SummitSom.Fit.Signed
import SummitSom.Boot.FitNames
import SummitSom.Hub.SpiReadBack
