import Rteipc.Ep.Devices
import Rteipc.Packet
import Rteipc.Rtemgrd

namespace Rteipc

/-! The `open` command of `rtemgr.c`: its options, and the path they are written into. -/

open Data

/-- `struct argument` -/
structure Argument where
  key : List UInt8
  val : Option (List UInt8)
deriving DecidableEq, Repr

/-- What the options of `open_parser` set: a field of the interface, and its local variables. -/
structure OpenVars where
  managed : BitVec 32
  abs : Bool
  line : BitVec 8
  dir : List UInt8
  outval : Bool
  speed : BitVec 32
  mode : BitVec 32
deriving DecidableEq, Repr

def OpenVars.start (managed : BitVec 32) : OpenVars := ⟨managed, false, 0, ascii "in", false, 0, 3⟩

/-- `check_bus_return_error` lets the option pass. -/
def onBus (busType : BitVec 32) (types : List EpType) : Bool := types.any fun type => type.number = busType

/-- One option; nothing where it is refused. The values of `line` and `mode` are not checked for NULL. -/
def openOption (busType : BitVec 32) (vars : OpenVars) (arg : Argument) : Except Fault (Option OpenVars) :=
  if arg.key = ascii "speed" then
    if !onBus busType [.tty, .spi] then .ok none
    else
      match arg.val with
      | none => .ok none
      | some val => .ok (some { vars with speed := (strtoul val 0).setWidth 32 })
  else if arg.key = ascii "file" ∨ arg.key = ascii "abstract" ∨ arg.key = ascii "abs" then
    if !onBus busType [.ipc] then .ok none
    else .ok (some { vars with abs := vars.abs || arg.key ≠ ascii "file" })
  else if arg.key = ascii "managed" then
    if !onBus busType [.ipc, .inet] then .ok none else .ok (some { vars with managed := 1 })
  else if arg.key = ascii "line" then
    if !onBus busType [.gpio] then .ok none
    else
      match arg.val with
      | none => .error .nullDereference
      | some val => .ok (some { vars with line := (strtoul val 0).setWidth 8 })
  else if arg.key = ascii "out" ∨ arg.key = ascii "in" then
    if !onBus busType [.gpio] then .ok none else .ok (some { vars with dir := arg.key })
  else if arg.key = ascii "hi" ∨ arg.key = ascii "lo" then
    if !onBus busType [.gpio] then .ok none else .ok (some { vars with outval := arg.key = ascii "hi" })
  else if arg.key = ascii "mode" then
    if !onBus busType [.spi] then .ok none
    else
      match arg.val with
      | none => .error .nullDereference
      | some val => .ok (some { vars with mode := (strtoul val 0).setWidth 32 })
  else .ok none

/-- What is printed into `buf` for a device, before it is cut. -/
def deviceText (bus : DeviceBus) (name path : List UInt8) (vars : OpenVars) : List UInt8 :=
  match bus with
  | .tty => path ++ 44 :: printInt (if vars.speed = 0 then 115200 else vars.speed)
  | .gpio =>
      name ++ 64 :: (path ++ 45 :: (printDecimal vars.line.toNat ++ 44 :: (vars.dir ++
        if vars.dir = ascii "out" then 44 :: [if vars.outval then 49 else 48] else [])))
  | .spi =>
      path ++ 44 :: (printInt (if vars.speed = 0 then 5000 else vars.speed) ++ 44 :: printInt vars.mode)

/-- Through `buf[128]` into the path of the interface. -/
def printPath (intf : RtemgrIntf) (bus : DeviceBus) (vars : OpenVars) : RtemgrIntf :=
  { intf with path := snprintf intf.path ((deviceText bus intf.name.text intf.path.text vars).take 127) }

/-- The parameters are written into the path. `memmove` and `strcat` are not told its size. -/
def encodePath (intf : RtemgrIntf) (vars : OpenVars) : Except Fault RtemgrIntf :=
  let path := intf.path.text
  if intf.busType = EpType.ipc.number then
    if !vars.abs then .ok intf
    else if path.length + 2 > 128 then .error .overflow
    else .ok { intf with path := strncpy 128 (64 :: path) }
  else if intf.busType = EpType.inet.number then
    let port := (scanInet path).2
    if port.length > 5 then .error .overflow
    else if port ≠ [] then .ok intf
    else if path.length + 6 > 128 then .error .overflow
    else .ok { intf with path := strncpy 128 (path ++ ascii ":9110") }
  else if intf.busType = EpType.tty.number then .ok (printPath intf .tty vars)
  else if intf.busType = EpType.gpio.number then .ok (printPath intf .gpio vars)
  else if intf.busType = EpType.spi.number then .ok (printPath intf .spi vars)
  else .ok intf

/-- The parameters a command line asks for, with numbers of any size. -/
structure Request where
  path : List UInt8
  line : Int
  out : Bool
  hi : Bool
  speed : Option Int
  mode : Int
deriving DecidableEq, Repr

def Request.option (request : Request) (arg : Argument) : Request :=
  let number := numberAt 0 (arg.val.getD [])
  if arg.key = ascii "speed" then { request with speed := some number }
  else if arg.key = ascii "line" then { request with line := number }
  else if arg.key = ascii "out" then { request with out := true }
  else if arg.key = ascii "in" then { request with out := false }
  else if arg.key = ascii "hi" then { request with hi := true }
  else if arg.key = ascii "lo" then { request with hi := false }
  else if arg.key = ascii "mode" then { request with mode := number }
  else request

/-- The device that is to be used. -/
def Request.use (request : Request) : DeviceBus → DeviceUse
  | .gpio =>
      if request.out then .gpioOutput request.path request.line (if request.hi then 1 else 0)
      else .gpioInput request.path request.line
  | .tty => .tty request.path (request.speed.getD 115200)
  | .spi => .spidev request.path (request.speed.getD 5000) request.mode

/-- What `strtoul` returns for a number. -/
def unsignedLong (number : Int) : BitVec 64 :=
  if number.natAbs < 18446744073709551616 then BitVec.ofInt 64 number else BitVec.allOnes 64

/-- The variables that hold a request. -/
def Request.vars (request : Request) : OpenVars where
  managed := 0
  abs := false
  line := (unsignedLong request.line).setWidth 8
  dir := if request.out then ascii "out" else ascii "in"
  outval := request.hi
  speed := (unsignedLong (request.speed.getD 0)).setWidth 32
  mode := (unsignedLong request.mode).setWidth 32

/-! ## The variables hold the request -/

/-- The parameters of a device in the variables. -/
def OpenVars.device (vars : OpenVars) : OpenVars := { vars with managed := 0, abs := false }

section Options

variable {busType : BitVec 32} {vars next : OpenVars} {arg : Argument} {request : Request}

end Options

end Rteipc
