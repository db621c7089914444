import Rteipc.Data.Run
import Rteipc.Ep.Tty

namespace Rteipc

open Data

/-! The descriptor of a TTY endpoint from `tty_open` to `tty_close`. Closing a
number takes it out of the open descriptors, and other code may then be given it. -/

inductive Closer where
  | rteipcMsgWrite
  | ttyClose
deriving DecidableEq, Repr

inductive FdOp where
  | read
  | write
  | close (closer : Closer)
deriving DecidableEq, Repr

/-- A call on a number, with the file that the number named then. -/
structure FdCall where
  op : FdOp
  file : Option Nat
deriving DecidableEq, Repr

def FdCall.isClose (call : FdCall) : Bool :=
  match call.op with
  | .close _ => true
  | .read | .write => false

/-- The open descriptors, the file `open` has opened for the endpoint, the
endpoint while it has its data, the calls it has made on its descriptor, and
whether its last callback has returned. -/
structure Terminal where
  files : Nat → Option Nat
  file : Nat
  self : Option TtyEp
  calls : List FdCall
  returned : Bool

/-- What the system answers while a terminal is opened: `fd` and `file` are what
`open` makes, and `drained` counts the reads that empty the line. -/
structure UartOpen where
  malloc : Bool
  fd : Option Nat
  file : Nat
  cfsetspeed : Bool
  tcsetattr : Bool
  drained : Nat

/-- `open_uart`; on the later failures the descriptor stays open. -/
def openUart (files : Nat → Option Nat) (sys : UartOpen) : (Nat → Option Nat) × Option Nat :=
  match sys.fd with
  | none => (files, none)
  | some fd =>
      let files := Function.update files fd (some sys.file)
      if !sys.cfsetspeed then (files, none)
      else if !sys.tcsetattr then (files, none)
      else (files, some fd)

/-- `tty_open` with the value it returns; the event is added. -/
def terminalOpen (files : Nat → Option Nat) (sys : UartOpen) : Terminal × Int :=
  if !sys.malloc then (⟨files, sys.file, none, [], true⟩, -1)
  else
    match openUart files sys with
    | (files, none) => (⟨files, sys.file, none, [], true⟩, -1)
    | (files, some fd) =>
        (⟨files, sys.file, some ⟨fd, true, none⟩, List.replicate sys.drained ⟨.read, files fd⟩, true⟩, 0)

/-- `rteipc_msg_write` on a descriptor: one `write` for each answer it has used. -/
def Terminal.msgWrite (t : Terminal) (fd : Nat) (outcomes : List WriteOutcome) (call : MsgWrite) : Terminal :=
  let writes := List.replicate (outcomes.length - call.left.length) (⟨.write, t.files fd⟩ : FdCall)
  if call.closed then
    { t with
      files := Function.update t.files fd none
      calls := t.calls ++ writes ++ [⟨.close .rteipcMsgWrite, t.files fd⟩] }
  else { t with calls := t.calls ++ writes }

/-- The `size` bytes at `msg`; those that nothing was copied to are as `malloc` left them. -/
def msgBytes (unset : Nat → UInt8) (size : Nat) (msg : List UInt8) : List UInt8 :=
  msg ++ (List.range' msg.length (size - msg.length)).map unset

/-- The loop of `tty_on_data`, which does not look at what `rteipc_msg_write`
returns. The answers of `write` that are left come with it. -/
def ttyLoop (malloc : Nat → Bool) (unset : Nat → UInt8) (fd : Nat) :
    Nat → Terminal → Evbuffer → List WriteOutcome → Terminal × List WriteOutcome
  | 0, t, _, outcomes => (t, outcomes)
  | fuel + 1, t, input, outcomes =>
      match rteipcMsgDrain malloc input with
      | (.message size msg, rest) =>
          let call := rteipcMsgWrite (msgBytes unset size msg) outcomes
          let t := t.msgWrite fd outcomes call
          if call.ret = none then ({ t with returned := false }, call.left)
          else ttyLoop malloc unset fd fuel t rest call.left
      | _ => (t, outcomes)

def ttyOnData (malloc : Nat → Bool) (unset : Nat → UInt8) (t : Terminal) (fd : Nat) (input : Evbuffer)
    (outcomes : List WriteOutcome) : Terminal × List WriteOutcome :=
  ttyLoop malloc unset fd (input.length + 1) t input outcomes

/-- `onData` brings the input of the endpoint's half and the answers of `write`
so far, all of them used; `elsewhere` is a descriptor that other code opens or closes. -/
inductive TtyEvent where
  | bind (bound : Bool)
  | onData (malloc : Nat → Bool) (unset : Nat → UInt8) (input : Evbuffer) (outcomes : List WriteOutcome)
  | upstream (refused : Bool) (outcome : ReadOutcome)
  | close
  | elsewhere (fd : Nat) (file : Option Nat)

/-- A callback runs when the one before has returned. Other code does not close
the descriptor of the endpoint. -/
inductive TtyStep : Terminal → TtyEvent → Terminal → Prop
  | bind {t : Terminal} {ep : TtyEp} {bound : Bool} (live : t.self = some ep) (idle : t.returned = true) :
      TtyStep t (.bind bound) { t with self := some { ep with bev := if bound then some [] else none } }
  | onData {t next : Terminal} {ep : TtyEp} {malloc : Nat → Bool} {unset : Nat → UInt8} {input : Evbuffer}
      {outcomes : List WriteOutcome} (live : t.self = some ep) (idle : t.returned = true) (bound : ep.bev ≠ none)
      (ran : ttyOnData malloc unset t ep.fd input outcomes = (next, [])) :
      TtyStep t (.onData malloc unset input outcomes) next
  | upstream {t : Terminal} {ep after : TtyEp} {refused : Bool} {outcome : ReadOutcome} (live : t.self = some ep)
      (idle : t.returned = true) (pending : ep.event = true) (ran : upstream refused ep outcome = .ok after) :
      TtyStep t (.upstream refused outcome)
        { t with
          self := some after
          calls := t.calls ++ if ep.bev = none then [] else [⟨.read, t.files ep.fd⟩] }
  | close {t : Terminal} {ep : TtyEp} (live : t.self = some ep) (idle : t.returned = true) :
      TtyStep t .close
        { t with
          self := none
          files := Function.update t.files ep.fd none
          calls := t.calls ++ [⟨.close .ttyClose, t.files ep.fd⟩] }
  | elsewhere {t : Terminal} {fd : Nat} {file : Option Nat} (other : t.files fd ≠ some t.file)
      (new : file ≠ some t.file) :
      TtyStep t (.elsewhere fd file) { t with files := Function.update t.files fd file }

/-- The descriptor has been closed once if the endpoint has been and not at all
before, by `tty_close`, and this is the last call on it; all calls are on the
file that was opened. -/
structure ClosedOnce (t : Terminal) : Prop where
  once : t.calls.filter FdCall.isClose = if t.self = none then [⟨.close .ttyClose, some t.file⟩] else []
  last : ∀ before call after, t.calls = before ++ call :: after → call.isClose = true → after = []
  own : ∀ call ∈ t.calls, call.file = some t.file
  held : ∀ ep, t.self = some ep → t.files ep.fd = some t.file

/-- None of the answers is an error that is not retried. -/
def GoesOn (outcomes : List WriteOutcome) : Prop := ∀ code, .error (.other code) ∉ outcomes

def TtyEvent.WritesGoOn : TtyEvent → Prop
  | .onData _ _ _ outcomes => GoesOn outcomes
  | _ => True

/-! ## Writing -/

/-- What writing with some answers does to the descriptor: only more writes if
all of them let it go on, and a close otherwise. -/
structure Wrote (t : Terminal) (fd : Nat) (used : List WriteOutcome) (next : Terminal) : Prop where
  self : next.self = t.self
  file : next.file = t.file
  more : t.calls <+: next.calls
  goesOn : GoesOn used → next.files = t.files ∧
    ∃ count, next.calls = t.calls ++ List.replicate count ⟨.write, t.files fd⟩
  fails : ¬GoesOn used → ∃ call ∈ next.calls, call.op = .close .rteipcMsgWrite

variable {t next last : Terminal} {fd : Nat} {used later outcomes left : List WriteOutcome}

theorem goesOn_append : GoesOn (used ++ later) ↔ GoesOn used ∧ GoesOn later := by
  simp only [GoesOn, List.mem_append, not_or, forall_and]

theorem Wrote.refl (t : Terminal) (fd : Nat) : Wrote t fd [] t where
  self := rfl
  file := rfl
  more := List.prefix_rfl
  goesOn _ := ⟨rfl, 0, (List.append_nil _).symm⟩
  fails failed := (failed fun _ => List.not_mem_nil).elim

theorem Wrote.trans (first : Wrote t fd used next) (second : Wrote next fd later last) :
    Wrote t fd (used ++ later) last where
  self := second.self.trans first.self
  file := second.file.trans first.file
  more := first.more.trans second.more
  goesOn both := by
    obtain ⟨goesFirst, goesSecond⟩ := goesOn_append.mp both
    obtain ⟨files, count, calls⟩ := first.goesOn goesFirst
    obtain ⟨sameFiles, others, moreCalls⟩ := second.goesOn goesSecond
    refine ⟨sameFiles.trans files, count + others, ?_⟩
    rw [moreCalls, calls, files, List.append_assoc, List.replicate_append_replicate]
  fails failed := by
    by_cases goesFirst : GoesOn used
    · exact second.fails fun goesSecond => failed (goesOn_append.mpr ⟨goesFirst, goesSecond⟩)
    · obtain ⟨call, member, closed⟩ := first.fails goesFirst
      exact ⟨call, second.more.subset member, closed⟩

/-- One message, of which the returned value does not matter. -/
theorem msgWrite_wrote (t : Terminal) (fd : Nat) (data : List UInt8) (outcomes : List WriteOutcome) :
    ∃ used, outcomes = used ++ (rteipcMsgWrite data outcomes).left ∧
      Wrote t fd used (t.msgWrite fd outcomes (rteipcMsgWrite data outcomes)) := by
  obtain ⟨used, split, closes⟩ := msgWriteLoop_used data outcomes 0 []
  have closed : (rteipcMsgWrite data outcomes).closed = true ↔ ¬GoesOn used := by
    simp only [GoesOn, not_forall, not_not]
    exact closes
  refine ⟨used, split, ?_⟩
  by_cases goes : GoesOn used
  · have stays : ¬(rteipcMsgWrite data outcomes).closed = true := fun failed => closed.mp failed goes
    simp only [Terminal.msgWrite, if_neg stays]
    exact ⟨rfl, rfl, List.prefix_append _ _, fun _ => ⟨rfl, _, rfl⟩, fun failed => (failed goes).elim⟩
  · simp only [Terminal.msgWrite, if_pos (closed.mpr goes), List.append_assoc]
    refine ⟨rfl, rfl, List.prefix_append _ _, fun goesOn => (goes goesOn).elim, fun _ => ?_⟩
    exact ⟨_, List.mem_append_right _ (List.mem_append_right _ (.head _)), rfl⟩

theorem ttyLoop_wrote (malloc : Nat → Bool) (unset : Nat → UInt8) (fuel : Nat) (input : Evbuffer) :
    ∃ used, outcomes = used ++ (ttyLoop malloc unset fd fuel t input outcomes).2 ∧
      Wrote t fd used (ttyLoop malloc unset fd fuel t input outcomes).1 := by
  induction fuel generalizing t input outcomes with
  | zero => exact ⟨[], rfl, .refl t fd⟩
  | succ fuel ih =>
      simp only [ttyLoop]
      split
      next size msg rest drained =>
          obtain ⟨used, split, wrote⟩ := msgWrite_wrote t fd (msgBytes unset size msg) outcomes
          by_cases inside : (rteipcMsgWrite (msgBytes unset size msg) outcomes).ret = none
          · rw [if_pos inside]
            exact ⟨used, split, wrote.self, wrote.file, wrote.more, wrote.goesOn, wrote.fails⟩
          · rw [if_neg inside]
            obtain ⟨later, resplit, rewrote⟩ := @ih (t.msgWrite fd outcomes _)
              (rteipcMsgWrite (msgBytes unset size msg) outcomes).left rest
            exact ⟨used ++ later, by rw [List.append_assoc, ← resplit, ← split], wrote.trans rewrote⟩
      next => exact ⟨[], rfl, .refl t fd⟩

theorem ttyOnData_wrote {malloc : Nat → Bool} {unset : Nat → UInt8} {input : Evbuffer}
    (ran : ttyOnData malloc unset t fd input outcomes = (next, [])) : Wrote t fd outcomes next := by
  obtain ⟨used, split, wrote⟩ := @ttyLoop_wrote t fd outcomes malloc unset (input.length + 1) input
  rw [ttyOnData] at ran
  rw [ran] at split wrote
  rw [List.append_nil] at split
  rwa [split]

/-! ## Whole runs -/

/-- A call that is not a close, on the file that was opened. -/
def UsesOwn (t : Terminal) (call : FdCall) : Prop := call.isClose = false ∧ call.file = some t.file

theorem notClosed_iff : t.calls.filter FdCall.isClose = [] ↔ ∀ call ∈ t.calls, call.isClose = false := by
  simp only [List.filter_eq_nil_iff, Bool.not_eq_true]

/-- While the endpoint has its data there must be no close at all. -/
theorem closedOnce_live {ep : TtyEp} (live : t.self = some ep) :
    ClosedOnce t ↔ (∀ call ∈ t.calls, UsesOwn t call) ∧ t.files ep.fd = some t.file := by
  constructor
  · intro once
    have none : t.calls.filter FdCall.isClose = [] := by rw [once.once, live, if_neg nofun]
    exact ⟨fun call member => ⟨notClosed_iff.mp none call member, once.own call member⟩, once.held ep live⟩
  · intro ⟨quiet, held⟩
    refine ⟨?_, ?_, fun call member => (quiet call member).2, ?_⟩
    · rw [live, if_neg nofun]
      exact notClosed_iff.mpr fun call member => (quiet call member).1
    · intro before call after split closes
      rw [(quiet call (split ▸ List.mem_append_right _ (.head _))).1] at closes
      cases closes
    · intro other also
      rw [live] at also
      cases also
      exact held

theorem openUart_names {files after : Nat → Option Nat} {sys : UartOpen}
    (made : openUart files sys = (after, some fd)) : after fd = some sys.file := by
  cases number : sys.fd with
  | none =>
      rw [openUart, number] at made
      cases made
  | some opened =>
      simp only [openUart, number] at made
      split at made
      · cases made
      · split at made
        · cases made
        · cases made
          exact Function.update_self _ _ _

theorem terminalOpen_closedOnce {files : Nat → Option Nat} {sys : UartOpen}
    (opened : (terminalOpen files sys).2 = 0) : ClosedOnce (terminalOpen files sys).1 := by
  rw [terminalOpen] at opened ⊢
  split
  next failed => rw [if_pos failed] at opened; cases opened
  next memory =>
      rw [if_neg memory] at opened
      cases made : openUart files sys with
      | mk after fd =>
          cases fd with
          | none => rw [made] at opened; cases opened
          | some fd =>
              have named := openUart_names made
              refine (closedOnce_live rfl).mpr ⟨fun call member => ?_, named⟩
              rw [List.eq_of_mem_replicate member]
              exact ⟨rfl, named⟩

/-- The only close is then the last call. -/
theorem ClosedOnce.close {ep : TtyEp} (once : ClosedOnce t) (live : t.self = some ep) :
    ClosedOnce
      { t with
        self := none
        files := Function.update t.files ep.fd none
        calls := t.calls ++ [⟨.close .ttyClose, t.files ep.fd⟩] } := by
  obtain ⟨quiet, held⟩ := (closedOnce_live live).mp once
  have before := notClosed_iff.mpr fun call member => (quiet call member).1
  refine ⟨?_, ?_, fun call member => ?_, nofun⟩
  · rw [List.filter_append, before, held]
    rfl
  · intro front call after split closes
    cases after using List.reverseRecOn with
    | nil => rfl
    | append_singleton after last _ =>
        rw [← List.cons_append, ← List.append_assoc] at split
        obtain ⟨init, -⟩ := List.append_inj' split rfl
        rw [(quiet call (init ▸ List.mem_append_right _ (.head _))).1] at closes
        cases closes
  · rcases List.mem_append.mp member with old | new
    · exact (quiet call old).2
    · rw [List.mem_singleton.mp new]
      exact held

theorem ClosedOnce.elsewhere {file : Option Nat} (once : ClosedOnce t) (other : t.files fd ≠ some t.file) :
    ClosedOnce { t with files := Function.update t.files fd file } where
  once := once.once
  last := once.last
  own := once.own
  held ep live := by
    have differ : ep.fd ≠ fd := fun same => other (same ▸ once.held ep live)
    show Function.update t.files fd file ep.fd = some t.file
    rw [Function.update_of_ne differ]
    exact once.held ep live

theorem closedOnce_iff {event : TtyEvent} (once : ClosedOnce t) (step : TtyStep t event next) :
    ClosedOnce next ↔ event.WritesGoOn := by
  cases step with
  | bind live idle =>
      obtain ⟨quiet, held⟩ := (closedOnce_live live).mp once
      refine iff_of_true ((closedOnce_live rfl).mpr ⟨quiet, ?_⟩) trivial
      exact held
  | onData live idle bound ran =>
      obtain ⟨quiet, held⟩ := (closedOnce_live live).mp once
      have wrote := ttyOnData_wrote ran
      have still := wrote.self.trans live
      rw [closedOnce_live still]
      constructor
      · intro stillUsed
        by_contra failed
        obtain ⟨call, member, closes⟩ := wrote.fails failed
        have open_ := (stillUsed.1 call member).1
        rw [FdCall.isClose, closes] at open_
        cases open_
      · intro goesOn
        obtain ⟨files, count, calls⟩ := wrote.goesOn goesOn
        refine ⟨fun call member => ?_, by rw [files, wrote.file, held]⟩
        rw [UsesOwn, wrote.file]
        rw [calls] at member
        rcases List.mem_append.mp member with old | new
        · exact quiet call old
        · rw [List.eq_of_mem_replicate new]
          exact ⟨rfl, held⟩
  | @upstream ep after refused outcome live idle pending ran =>
      obtain ⟨quiet, held⟩ := (closedOnce_live live).mp once
      have same : after.fd = ep.fd := upstream_fd ran
      refine iff_of_true ((closedOnce_live rfl).mpr ⟨fun call member => ?_, by rw [same]; exact held⟩) trivial
      rcases List.mem_append.mp member with old | new
      · exact quiet call old
      · split at new
        · cases new
        · rw [List.mem_singleton.mp new]
          exact ⟨rfl, held⟩
  | close live idle => exact iff_of_true (once.close live) trivial
  | elsewhere other new => exact iff_of_true (once.elsewhere other) trivial

/-- After a successful open, and whatever other code does with the numbers that
are free, the descriptor is closed once, by `tty_close`, and not used afterwards
if and only if no `write` is answered with an error other than EINTR and EAGAIN. -/
theorem tty_closed_once_iff {files : Nat → Option Nat} {sys : UartOpen} (opened : (terminalOpen files sys).2 = 0)
    (events : List TtyEvent) :
    Always TtyStep ClosedOnce (terminalOpen files sys).1 events ↔
      Guarded TtyStep (fun _ event => event.WritesGoOn) (terminalOpen files sys).1 events :=
  @always_iff_guarded _ _ TtyStep (fun _ => True) _ _ (fun _ _ _ _ _ => trivial)
    (fun _ _ _ _ once step => closedOnce_iff once step) _ _ trivial
    (terminalOpen_closedOnce opened)

/-- An open that succeeds, with number 3. -/
def UartOpen.succeeds : UartOpen := ⟨true, some 3, 0, true, true, 1⟩

/-- One byte is written and the endpoint is closed. -/
theorem tty_closed_once_iff_write :
    Always TtyStep ClosedOnce (terminalOpen (fun _ => none) .succeeds).1
        [.bind true, .onData (fun _ => true) (fun _ => 0) [0, 0, 0, 1, 7] [.written 1], .close] ↔
      Guarded TtyStep (fun _ event => event.WritesGoOn) (terminalOpen (fun _ => none) .succeeds).1
        [.bind true, .onData (fun _ => true) (fun _ => 0) [0, 0, 0, 1, 7] [.written 1], .close] :=
  tty_closed_once_iff rfl _

/-- The write of one byte fails, other code opens a file and is given the
number, and closing the endpoint closes that file. -/
theorem tty_closes_other_file :
    ¬∀ (files : Nat → Option Nat) (sys : UartOpen), (terminalOpen files sys).2 = 0 →
      ∀ events, Always TtyStep ClosedOnce (terminalOpen files sys).1 events := by
  intro all
  have drained : rteipcMsgDrain (fun _ => true) [0, 0, 0, 1, 7] = (.message 1 [7], []) := by decide +kernel
  have empty : rteipcMsgDrain (fun _ => true) [] = (.empty, []) := by decide
  have called : rteipcMsgWrite [7] [.error (.other 5)] = ⟨0, [], true, some (-1), []⟩ := by decide
  have ran : ∀ t : Terminal, ttyOnData (fun _ => true) (fun _ => 0) t 3 [0, 0, 0, 1, 7] [.error (.other 5)] =
      (t.msgWrite 3 [.error (.other 5)] ⟨0, [], true, some (-1), []⟩, []) := by
    intro t
    rw [ttyOnData, ttyLoop, drained]
    simp only [msgBytes, List.length_singleton, Nat.sub_self, List.range'_zero, List.map_nil, List.append_nil, called]
    rw [List.length_cons, ttyLoop, empty]
    rfl
  have always := all (fun _ => none) .succeeds rfl
    [.bind true, .onData (fun _ => true) (fun _ => 0) [0, 0, 0, 1, 7] [.error (.other 5)], .elsewhere 3 (some 1), .close]
  have bound := always.2 _ (.bind rfl rfl)
  have failed := bound.2 _ (.onData rfl rfl nofun (ran _))
  have reused := failed.2 _ (.elsewhere nofun nofun)
  have closed := (reused.2 _ (.close rfl rfl)).own ⟨.close .ttyClose, some 1⟩ (by decide)
  cases closed

end Rteipc
