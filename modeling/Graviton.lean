import Graviton.Amplifier
import Graviton.Chips
import Graviton.Clocked
import Graviton.Configured
import Graviton.Coverage
import Graviton.DacFormat
import Graviton.GateSafety
import Graviton.Link
import Graviton.Rails
import Graviton.Report
import Graviton.SoftLimits
import Graviton.SpiPins
import Graviton.SupplyDrop
import Graviton.Temperatures
