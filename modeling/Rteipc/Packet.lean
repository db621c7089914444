import Rteipc.Clib

namespace Rteipc

/-! The packet of `rtemgr-common.h`. `nr_intf` is the length of the interface
list; it is an `int`. -/

structure RtemgrIntf where
  id : BitVec 32
  busType : BitVec 32
  name : CharArray 16
  path : CharArray 128
  domain : BitVec 32
  managed : BitVec 32
  partner : CharArray 16
deriving DecidableEq, Repr

structure Extra where
  addr : BitVec 16
  rsize : BitVec 16
deriving DecidableEq, Repr

/-- `v` is NULL or the bytes written at it: a text as `strdup` stored it, or
the output of the decoder. -/
structure RtecmdVal where
  v : Option (List UInt8)
  s : BitVec 64
  extra : Extra
deriving DecidableEq, Repr

structure Rtecmd where
  action : BitVec 32
  error : BitVec 32
  val : RtecmdVal
deriving DecidableEq, Repr

structure RtemgrData where
  cmd : Rtecmd
  interfaces : List RtemgrIntf
deriving DecidableEq, Repr

/-- `calloc` -/
def rtemgrDataAlloc : RtemgrData where
  cmd := ⟨0, 0, ⟨none, 0, ⟨0, 0⟩⟩⟩
  interfaces := []

def freshIntf : RtemgrIntf where
  id := -1
  busType := -1
  name := .zeroed 16
  path := .zeroed 128
  domain := 0
  managed := 0
  partner := .zeroed 16

/-- `realloc` tells for which number of interfaces memory is found. -/
def rtemgrDataAllocInterface (realloc : Nat → Bool) (d : RtemgrData) : Option RtemgrData :=
  if realloc (d.interfaces.length + 1) then
    some { d with interfaces := d.interfaces ++ [freshIntf] }
  else none

/-- The payload: the first `s` bytes at `v`. -/
def RtecmdVal.payload (val : RtecmdVal) : List UInt8 := (val.v.getD []).take val.s.toNat

/-- An event of libyaml. Of a scalar the packet code looks at the text only,
not at its tag or style. -/
inductive YamlEvent where
  | streamStart
  | documentStart
  | mappingStart
  | mappingEnd
  | sequenceStart
  | sequenceEnd
  | scalar (value : List UInt8)
  | alias
  | documentEnd
  | streamEnd
deriving DecidableEq, Repr

end Rteipc
