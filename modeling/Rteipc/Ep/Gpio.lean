import Rteipc.Connect.Send
import Rteipc.Message.Loop

namespace Rteipc

/-! The GPIO endpoint of `ep_gpio.c` while it is open: values are set on an
output line, and the edges of an input line are reported. -/

open Data

/-- The endpoint with its `struct gpio_data`: `event` tells whether `ev` is
added, and `bev` is what its half of the pair has been given to send. -/
structure GpioEp (Line : Type) where
  line : Line
  out : Bool
  event : Bool
  bev : Option Evbuffer
deriving DecidableEq, Repr

/-- What `gpiod_line_set_value` makes of a line. Its result is not looked at. -/
structure GpioEnv (Line : Type) where
  malloc : Nat → Bool
  setValue : Line → UInt8 → Line

/-- What `gpiod_line_event_read` answers. -/
inductive LineEvent where
  | failed
  | edge (rising : Bool) (sec nsec : BitVec 64)
deriving DecidableEq, Repr

/-- A 64-bit number in the memory of a little-endian host. -/
def longBytes (value : BitVec 64) : List UInt8 := (List.range 8).map fun i => UInt8.ofNat (value.toNat / 256 ^ i)

/-- The value and the two times of an edge. -/
def edgeMessage (rising : Bool) (sec nsec : BitVec 64) : List UInt8 :=
  (if rising then 1 else 0) :: (longBytes sec ++ longBytes nsec)

section Gpio

variable {Line : Type} (env : GpioEnv Line)

/-- `upstream`. The length and the bytes are written as `rteipc_evbuffer` does. -/
def GpioEp.upstream (self : GpioEp Line) : LineEvent → GpioEp Line
  | .failed => { self with event := false }
  | .edge rising sec nsec =>
      match self.bev with
      | none => self
      | some bev => { self with bev := some (rteipcEvbuffer bev (edgeMessage rising sec nsec)).1 }

/-- From the drained message to `free_msg`. -/
def gpioOnMsg (self : GpioEp Line) (len : Nat) (msg : List UInt8) : GpioEp Line :=
  if !self.out then self
  else
    let value := msg.headD 0
    if len ≠ 1 || value > 1 then self else { self with line := env.setValue self.line value }

def gpioLoop : Nat → Evbuffer → GpioEp Line → GpioEp Line × Evbuffer
  | 0, buf, self => (self, buf)
  | fuel + 1, buf, self =>
      match rteipcMsgDrain env.malloc buf with
      | (.message len msg, rest) => gpioLoop fuel rest (gpioOnMsg env self len msg)
      | (_, rest) => (self, rest)

/-- A message takes its header off the buffer, so this much fuel is never used up. -/
def gpioOnData (buf : Evbuffer) (self : GpioEp Line) : GpioEp Line × Evbuffer := gpioLoop env (buf.length + 1) buf self

end Gpio

/-- A value above 1 counts as 1. -/
def rteipcGpioSend {ReadCb ErrCb Arg : Type} (st : ConnState ReadCb ErrCb Arg) (id : Int) (value : UInt8) :
    Except Fault (ConnState ReadCb ErrCb Arg × Int) :=
  rteipcEvsend st id [if value > 1 then 1 else value]

/-! ## What a line is set to -/

/-- The value that a message of one byte sets. -/
def gpioValue (msg : Nat × List UInt8) : Option UInt8 :=
  if msg.1 = 1 ∧ msg.2.headD 0 ≤ 1 then some (msg.2.headD 0) else none

section Lines

variable {Line : Type} {env : GpioEnv Line} {self : GpioEp Line}

theorem gpioLoop_law (env : GpioEnv Line) :
    DrainLoop env.malloc (fun self len msg => .ok (gpioOnMsg env self len msg)) id
      fun fuel buf self => .ok (gpioLoop env fuel buf self) where
  zero _ _ := rfl
  stop fuel buf self nothing := by
    rw [gpioLoop]
    cases drained : rteipcMsgDrain env.malloc buf with
    | mk result rest =>
        cases result with
        | message size msg => exact (nothing size msg (by rw [drained])).elim
        | empty => simp [rteipcMsgDrain_kept drained rfl]
        | failed => simp [rteipcMsgDrain_kept drained rfl]
  next fuel buf self size msg rest drained := by
    rw [gpioLoop, drained]
    rfl

theorem gpioOnMsg_eq (self : GpioEp Line) (msg : Nat × List UInt8) :
    gpioOnMsg env self msg.1 msg.2 =
      { self with line := if self.out then ((gpioValue msg).map (env.setValue self.line)).getD self.line else self.line } := by
  obtain ⟨line, out, event, bev⟩ := self
  unfold gpioOnMsg gpioValue
  cases out with
  | false => rfl
  | true =>
      by_cases fits : msg.1 = 1 ∧ msg.2.headD 0 ≤ 1
      · have small : ¬msg.2.headD 0 > 1 := UInt8.not_lt.mpr fits.2
        rw [if_pos fits]
        simp only [fits.1, small, ne_eq, not_true_eq_false, decide_false, Bool.or_self, Bool.not_true, Bool.false_eq_true,
          if_false, if_true, Option.map_some, Option.getD_some]
      · have refused : (decide (msg.1 ≠ 1) || decide (msg.2.headD 0 > 1)) = true := by
          rw [Bool.or_eq_true, decide_eq_true_eq, decide_eq_true_eq]
          by_contra neither
          rw [not_or, not_not, UInt8.not_lt] at neither
          exact fits neither
        rw [if_neg fits]
        simp only [refused, Bool.not_true, Bool.false_eq_true, if_false, if_true, Option.map_none, Option.getD_none]

/-- Whatever bytes are in the input, the line is set to the values of the
messages among them that have one, in order, if it is an output line, and to
nothing if it is not. -/
theorem gpioLoop_eq (fuel : Nat) (buf : Evbuffer) (self : GpioEp Line) :
    gpioLoop env fuel buf self =
      ({ self with
          line := if self.out then ((msgLoop env.malloc fuel buf).1.filterMap gpioValue).foldl env.setValue self.line
            else self.line },
        (msgLoop env.malloc fuel buf).2) := by
  induction fuel generalizing buf self with
  | zero => simp [gpioLoop, msgLoop]
  | succ fuel ih =>
      rw [gpioLoop, msgLoop]
      cases drained : rteipcMsgDrain env.malloc buf with
      | mk result rest =>
          cases result with
          | empty => simp [rteipcMsgDrain_kept drained rfl]
          | failed => simp [rteipcMsgDrain_kept drained rfl]
          | message len msg =>
              have one := @gpioOnMsg_eq _ env self (len, msg)
              simp only [ih, one]
              cases out : self.out with
              | false => simp
              | true =>
                  cases value : gpioValue (len, msg) with
                  | none => simp [value]
                  | some value => simp [value]

end Lines

end Rteipc
