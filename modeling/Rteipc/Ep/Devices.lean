import Rteipc.Clib.Scanf
import Rteipc.Data.Scan
import Rteipc.Endpoint

namespace Rteipc

/-! The `open` operations of the GPIO, TTY and SPI endpoints: what they read in a
path, and the device they open with it. -/

open Data

/-- What an endpoint uses once it is open. -/
inductive DeviceUse where
  | gpioInput (chipPath : List UInt8) (num : Int)
  | gpioOutput (chipPath : List UInt8) (num val : Int)
  | tty (dev : List UInt8) (speed : Int)
  | spidev (dev : List UInt8) (speed mode : Int)
deriving DecidableEq, Repr

/-- The variables of `gpio_open` that `sscanf` writes to. -/
structure GpioFields where
  consumer : List UInt8
  chipPath : List UInt8
  num : BitVec 32
  dir : List UInt8
  val : BitVec 32
deriving DecidableEq, Repr

/-- `consumer[256]`, `chip_path[PATH_MAX]` and `dir[4]` hold what is scanned. -/
def GpioFields.fit (fields : GpioFields) : Bool :=
  fields.consumer.length < 256 && fields.chipPath.length < 4096 && fields.dir.length < 4

/-- The buses whose endpoints are devices with parameters in their paths. -/
inductive DeviceBus where
  | gpio
  | tty
  | spi
deriving DecidableEq, Repr

def DeviceBus.type : DeviceBus → EpType
  | .gpio => .gpio
  | .tty => .tty
  | .spi => .spi

end Rteipc
