import Rteipc.Ep.Bridge
import Rteipc.Ep.Gpio
import Rteipc.Ep.Sysfs

namespace Rteipc

/-! What clients of GPIO and SYSFS endpoints are served. -/

open Data

/-! ## Backends that handle one message after the other -/

section Loops

variable {Ep Event Dev : Type} {backend : Backend Ep Event} {malloc : Nat → Bool}
  {onMsg : Ep → Nat → List UInt8 → Except Fault Ep} {loop : Nat → Evbuffer → Ep → Except Fault (Ep × Evbuffer)}
  {server : Server Dev (Nat × List UInt8) Event} {view : Ep → Dev} {Safe : Nat × List UInt8 → Prop}

/-- Handling one safe message is what the server does with it, and the answers
are added to what the half has been given to send. -/
structure HandlesMsgs (backend : Backend Ep Event) (malloc : Nat → Bool) (onMsg : Ep → Nat → List UInt8 → Except Fault Ep)
    (server : Server Dev (Nat × List UInt8) Event) (view : Ep → Dev) (Safe : Nat × List UInt8 → Prop) : Prop where
  view_setBev : ∀ ep bev, view (backend.setBev ep bev) = view ep
  bev_setBev : ∀ ep bev, backend.bev (backend.setBev ep bev) = bev
  safe : ∀ ep out msg, Fetched malloc msg → Safe msg → backend.bev ep = some out →
    ∃ after, onMsg ep msg.1 msg.2 = .ok after ∧ view after = (server.serve (view ep) msg).1 ∧
      backend.bev after = some (out ++ msgFormat.encodeAll (server.serve (view ep) msg).2)
  unsafe_ : ∀ ep msg, Fetched malloc msg → ¬Safe msg → ∃ fault, onMsg ep msg.1 msg.2 = .error fault
  upstream : ∀ ep out event, backend.bev ep = some out →
    view (backend.upstream event ep) = (server.notify (view ep) event).1 ∧
      backend.bev (backend.upstream event ep) = some (out ++ msgFormat.encodeAll (server.notify (view ep) event).2)
  answers : ∀ dev msg, Fetched malloc msg → ∀ reply ∈ (server.serve dev msg).2, msgFormat.Valid reply
  reports : ∀ dev event, ∀ report ∈ (server.notify dev event).2, msgFormat.Valid report

theorem HandlesMsgs.all (handles : HandlesMsgs backend malloc onMsg server view Safe) {msgs : List (Nat × List UInt8)}
    (fetched : ∀ msg ∈ msgs, Fetched malloc msg) (safe : ∀ msg ∈ msgs, Safe msg) {ep : Ep} {out : Evbuffer}
    (sent : backend.bev ep = some out) :
    ∃ after, handleMsgs onMsg ep msgs = .ok after ∧ view after = (server.run (view ep) (msgs.map .inl)).1 ∧
      backend.bev after = some (out ++ msgFormat.encodeAll (server.run (view ep) (msgs.map .inl)).2) := by
  induction msgs generalizing ep out with
  | nil => exact ⟨ep, rfl, rfl, by simpa using sent⟩
  | cons msg rest ih =>
      obtain ⟨middle, handled, seen, wrote⟩ :=
        handles.safe ep out msg (fetched msg List.mem_cons_self) (safe msg List.mem_cons_self) sent
      obtain ⟨after, later, seenLater, wroteLater⟩ :=
        ih (fun other member => fetched other (List.mem_cons_of_mem _ member))
          (fun other member => safe other (List.mem_cons_of_mem _ member)) wrote
      refine ⟨after, ?_, ?_, ?_⟩
      · simp only [handleMsgs, handled, Except.bind, later]
      · rw [seenLater, seen]
        rfl
      · rw [wroteLater, seen, List.append_assoc, ← FrameFormat.encodeAll_append]
        rfl

theorem HandlesMsgs.unsafe_all (handles : HandlesMsgs backend malloc onMsg server view Safe)
    {msgs : List (Nat × List UInt8)} (fetched : ∀ msg ∈ msgs, Fetched malloc msg) (unsafe_ : ¬∀ msg ∈ msgs, Safe msg)
    (ep : Ep) : ∃ fault, handleMsgs onMsg ep msgs = .error fault := by
  induction msgs generalizing ep with
  | nil => exact (unsafe_ fun _ member => (List.not_mem_nil member).elim).elim
  | cons msg rest ih =>
      cases handled : onMsg ep msg.1 msg.2 with
      | error fault => exact ⟨fault, by simp only [handleMsgs, handled, Except.bind]⟩
      | ok after =>
          have safe : Safe msg := by
            by_contra bad
            obtain ⟨fault, failed⟩ := handles.unsafe_ ep msg (fetched msg List.mem_cons_self) bad
            rw [handled] at failed
            cases failed
          have later : ¬∀ other ∈ rest, Safe other := by
            intro all
            apply unsafe_
            intro other member
            obtain same | among := List.mem_cons.mp member
            · rw [same]
              exact safe
            · exact all other among
          obtain ⟨fault, failed⟩ := ih (fun other member => fetched other (List.mem_cons_of_mem _ member)) later after
          exact ⟨fault, by simp only [handleMsgs, handled, Except.bind, failed]⟩

theorem HandlesMsgs.implements (handles : HandlesMsgs backend malloc onMsg server view Safe)
    (law : DrainLoop malloc onMsg id loop) (onData : ∀ buf ep, backend.onData buf ep = loop (buf.length + 1) buf ep) :
    backend.code.Implements msgFormat server view (Fetched malloc) fun _ msgs => ∀ msg ∈ msgs, Safe msg where
  good _ fetched := fetched.1
  serves ep out msgs next rest fetched fetchedNext waiting safe := by
    have enough := msgFormat_enough msgs rest
    have looped := law.frames fetched (fun msg member => (fetchedNext msg member).1) waiting (Nat.le_of_lt enough)
      (backend.setBev ep (some out))
    obtain ⟨after, handled, seen, wrote⟩ := handles.all fetched safe (handles.bev_setBev ep (some out))
    rw [handles.view_setBev] at seen wrote
    refine ⟨after, seen, ?_⟩
    simp only [Backend.code, onData, looped, handled, Except.map, id, wrote, Option.getD_some]
  faults ep out msgs next rest fetched fetchedNext waiting unsafe_ := by
    have enough := msgFormat_enough msgs rest
    have looped := law.frames fetched (fun msg member => (fetchedNext msg member).1) waiting (Nat.le_of_lt enough)
      (backend.setBev ep (some out))
    obtain ⟨fault, failed⟩ := handles.unsafe_all fetched unsafe_ (backend.setBev ep (some out))
    simp only [Backend.code, onData, looped, failed, Except.map]
  notifies ep out event := by
    obtain ⟨seen, wrote⟩ := handles.upstream (backend.setBev ep (some out)) out event (handles.bev_setBev _ _)
    rw [handles.view_setBev] at seen wrote
    exact ⟨seen, by simp only [Backend.code, wrote, Option.getD_some]⟩
  answers := handles.answers
  reports := handles.reports

end Loops

/-! ## GPIO -/

section Gpio

variable {Line : Type} (env : GpioEnv Line)

def gpioBackend : Backend (GpioEp Line) LineEvent where
  onData buf self := .ok (gpioOnData env buf self)
  listens self := self.event
  upstream event self := self.upstream event
  bev := GpioEp.bev
  setBev self bev := { self with bev }

/-- A GPIO line: whether it is an output, and whether its edges are still reported. -/
structure GpioLine (Line : Type) where
  line : Line
  out : Bool
  reports : Bool
deriving DecidableEq, Repr

def GpioEp.seen (self : GpioEp Line) : GpioLine Line := ⟨self.line, self.out, self.event⟩

/-- An output line takes the values 0 and 1 and answers nothing; of an input
line every edge is reported with its time, until it can no longer be read. -/
def gpioServer : Server (GpioLine Line) (Nat × List UInt8) LineEvent where
  serve dev msg :=
    match dev.out, msg.2 with
    | true, [value] => ({ dev with line := if value ≤ 1 then env.setValue dev.line value else dev.line }, [])
    | _, _ => (dev, [])
  notify dev event :=
    match event with
    | .failed => ({ dev with reports := false }, [])
    | .edge rising sec nsec => (dev, [sized (edgeMessage rising sec nsec)])

theorem edgeMessage_length (rising : Bool) (sec nsec : BitVec 64) : (edgeMessage rising sec nsec).length = 17 := by
  simp [edgeMessage, longBytes]

theorem gpioServer_serve (dev : GpioLine Line) {msg : Nat × List UInt8} (valid : msgFormat.Valid msg) :
    (gpioServer env).serve dev msg =
      ({ dev with line := if dev.out then ((gpioValue msg).map (env.setValue dev.line)).getD dev.line else dev.line }, []) := by
  obtain ⟨line, out, reports⟩ := dev
  obtain ⟨size, payload⟩ := msg
  obtain ⟨told, positive, -⟩ := valid
  have length : size = payload.length := (Prod.mk.inj told).1
  subst length
  cases out with
  | false => rfl
  | true =>
      match payload with
      | [] => simp at positive
      | [value] =>
          by_cases small : value ≤ 1
          · simp [gpioServer, gpioValue, small]
          · simp [gpioServer, gpioValue, small]
      | _ :: _ :: _ => simp [gpioServer, gpioValue]

theorem gpio_handles :
    HandlesMsgs (gpioBackend env) env.malloc (fun self len msg => .ok (gpioOnMsg env self len msg)) (gpioServer env)
      GpioEp.seen fun _ => True where
  view_setBev _ _ := rfl
  bev_setBev _ _ := rfl
  safe self out msg fetched _ sent := by
    have served := gpioServer_serve env self.seen fetched.1
    refine ⟨_, rfl, ?_, ?_⟩
    · rw [served, gpioOnMsg_eq]
      rfl
    · rw [served, gpioOnMsg_eq]
      simpa [gpioBackend] using sent
  unsafe_ _ _ _ bad := (bad trivial).elim
  upstream self out event sent := by
    cases event with
    | failed => exact ⟨rfl, by simpa [gpioBackend, gpioServer, GpioEp.upstream] using sent⟩
    | edge rising sec nsec =>
        have bound : self.bev = some out := sent
        simp only [gpioBackend, GpioEp.upstream, bound]
        refine ⟨rfl, ?_⟩
        simp [gpioServer, msgFormat, sized]
  answers dev msg fetched reply member := by
    rw [gpioServer_serve env dev fetched.1] at member
    exact (List.not_mem_nil member).elim
  reports dev event report member := by
    cases event with
    | failed => exact (List.not_mem_nil member).elim
    | edge rising sec nsec =>
        have length := edgeMessage_length rising sec nsec
        rw [List.mem_singleton.mp member]
        exact ⟨rfl, by rw [sized, length]; decide, by rw [sized, length]; decide⟩

/-- In every run of a client and a GPIO endpoint, whatever the chunks the bytes
are moved in and whenever the callbacks run, the line is set as the client asks,
in order, and the client receives every edge once and in order. -/
theorem gpio_served (ep : GpioEp Line) (events : List (BridgeEvent LineEvent))
    (good : ∀ data, .rteipcSend data ∈ events → Deliverable data ∧ env.malloc data.length = true) :
    Always (BridgeStep (gpioBackend env))
      (ServesAlways (gpioBackend env) (gpioServer env) GpioEp.seen ep.seen fun _ _ => True)
      (.ok (Bridge.start ep)) events := by
  have implements := (gpio_handles env).implements (gpioLoop_law env) fun _ _ => rfl
  have ready : (fun (_ : GpioEp Line) (msgs : List (Nat × List UInt8)) => ∀ msg ∈ msgs, True) = fun _ _ => True := by
    simp
  rw [ready] at implements
  have fetched : ∀ data, .rteipcSend data ∈ events → Fetched env.malloc (sized data) := fun data member =>
    ⟨⟨rfl, (good data member).1⟩, (good data member).2⟩
  apply (bridge_serves_iff implements ep events fetched).mpr
  apply Guarded.of_forall
  intro st event
  cases st with
  | error fault => trivial
  | ok st => cases event <;> trivial

end Gpio

/-- A line whose value is the last one set. -/
def plainLine : GpioEnv UInt8 := ⟨fun _ => true, fun _ value => value⟩

/-- A client sets a line to 1, and the byte comes in three parts. -/
theorem gpio_served_set :
    Always (BridgeStep (gpioBackend plainLine))
      (ServesAlways (gpioBackend plainLine) (gpioServer plainLine) GpioEp.seen ⟨0, true, false⟩ fun _ _ => True)
      (.ok (Bridge.start ⟨0, true, false, none⟩)) [.rteipcSend [1], .arrive 2, .onData, .arrive 2, .onData, .arrive 1, .onData] := by
  apply gpio_served plainLine ⟨0, true, false, none⟩
  intro data member
  simp only [List.mem_cons, BridgeEvent.rteipcSend.injEq, reduceCtorEq, List.not_mem_nil, or_false] at member
  subst member
  exact ⟨⟨by decide, by decide⟩, rfl⟩

/-! ## SYSFS -/

section Sysfs

variable {Device : Type} (env : SysfsEnv Device)

/-- Nothing comes from the device by itself. -/
def sysfsBackend : Backend (SysfsState Device) Empty where
  onData := sysfsOnData env
  listens _ := false
  upstream event _ := event.elim
  bev := SysfsState.bev
  setBev st bev := { st with bev }

def SysfsState.seen (st : SysfsState Device) : Device × List SysattrCall := (st.device, st.calls)

/-- A request with a `=` sets an attribute, which is not answered; one without
reads it, and is answered with its name and value unless there is none. -/
def sysfsServer : Server (Device × List SysattrCall) (Nat × List UInt8) Empty where
  serve dev msg :=
    let text := cString msg.2
    let (attr, value) := splitAttr text
    if 61 ∈ text then
      let value := if msg.2.length ≤ attr.length + 1 then none else some value
      (((env.setSysattrValue dev.1 attr value).1, dev.2 ++ [.set attr value]), [])
    else
      ((((env.getSysattrValue dev.1 text).1, dev.2 ++ [.get text])),
        match (env.getSysattrValue dev.1 text).2 with
        | none => []
        | some value => [sized ((text ++ 61 :: value).take (pathMax - 1))])
  notify _ event := event.elim

theorem sysfsLoop_law :
    DrainLoop env.malloc (fun st _ msg => sysfsOnMsg env st msg) id (sysfsLoop env) where
  zero _ _ := rfl
  stop fuel buf st nothing := by
    rw [sysfsLoop]
    cases drained : rteipcMsgDrain env.malloc buf with
    | mk result rest =>
        cases result with
        | message size msg => exact (nothing size msg (by rw [drained])).elim
        | empty => simp [rteipcMsgDrain_kept drained rfl]
        | failed => simp [rteipcMsgDrain_kept drained rfl]
  next fuel buf st size msg rest drained := by
    rw [sysfsLoop, drained]
    rfl

theorem dropWhile_tail (text : List UInt8) :
    (text.dropWhile (· ≠ 61)).tail = text.drop ((text.takeWhile (· ≠ 61)).length + 1) := by
  have whole : text.takeWhile (· ≠ 61) ++ text.dropWhile (· ≠ 61) = text := List.takeWhile_append_dropWhile
  calc
    (text.dropWhile (· ≠ 61)).tail = (text.dropWhile (· ≠ 61)).drop 1 := List.drop_one.symm
    _ = (text.takeWhile (· ≠ 61) ++ text.dropWhile (· ≠ 61)).drop ((text.takeWhile (· ≠ 61)).length + 1) :=
        (List.drop_length_add_append 1).symm
    _ = text.drop ((text.takeWhile (· ≠ 61)).length + 1) := by rw [whole]

theorem sysfs_handles :
    HandlesMsgs (sysfsBackend env) env.malloc (fun st _ msg => sysfsOnMsg env st msg) (sysfsServer env)
      SysfsState.seen fun msg => env.strndup msg.2.length = true where
  view_setBev _ _ := rfl
  bev_setBev _ _ := rfl
  safe st out msg _ copied sent := by
    have bound : st.bev = some out := sent
    simp only [sysfsOnMsg, copied, Bool.not_true, Bool.false_eq_true, if_false, sysfsServer, splitAttr, dropWhile_tail]
    split
    · exact ⟨_, rfl, rfl, by simpa [sysfsBackend] using bound⟩
    · cases held : (env.getSysattrValue st.device (cString msg.2)).2 with
      | none =>
          have seen : (env.getSysattrValue st.seen.1 (cString msg.2)).2 = none := held
          rw [seen]
          exact ⟨_, rfl, rfl, by simpa [sysfsBackend] using bound⟩
      | some value =>
          have seen : (env.getSysattrValue st.seen.1 (cString msg.2)).2 = some value := held
          rw [seen]
          exact ⟨_, rfl, rfl, by simp [sysfsBackend, bound, FrameFormat.encodeAll, msgFormat, sized]⟩
  unsafe_ st msg _ failed := by
    refine ⟨.nullDereference, ?_⟩
    simp [sysfsOnMsg, failed]
  upstream _ _ event _ := event.elim
  answers dev msg fetched reply member := by
    simp only [sysfsServer] at member
    split at member
    · exact (List.not_mem_nil member).elim
    · cases held : (env.getSysattrValue dev.1 (cString msg.2)).2 with
      | none =>
          rw [held] at member
          exact (List.not_mem_nil member).elim
      | some value =>
          rw [held] at member
          have length : ((cString msg.2 ++ 61 :: value).take (pathMax - 1)).length =
              min 4095 ((cString msg.2).length + (value.length + 1)) := by
            simp [pathMax]
          rw [List.mem_singleton.mp member]
          refine ⟨rfl, ?_, ?_⟩
          · rw [sized, length]
            omega
          · rw [sized, length]
            omega
  reports _ event := event.elim

/-- In every run of a client and a SYSFS endpoint the attributes are read and set
as the client asks, in order, and each reading request is answered once, in the
order of the requests, if and only if there is always memory to copy the
messages that are handled. -/
theorem sysfs_served_iff (st : SysfsState Device) (events : List (BridgeEvent Empty))
    (good : ∀ data, .rteipcSend data ∈ events → Deliverable data ∧ env.malloc data.length = true) :
    Always (BridgeStep (sysfsBackend env))
        (ServesAlways (sysfsBackend env) (sysfsServer env) SysfsState.seen st.seen
          fun _ msgs => ∀ msg ∈ msgs, env.strndup msg.2.length = true)
        (.ok (Bridge.start st)) events ↔
      Guarded (BridgeStep (sysfsBackend env))
        (ReadyBatch fun _ msgs => ∀ msg ∈ msgs, env.strndup msg.2.length = true) (.ok (Bridge.start st)) events := by
  have implements := (sysfs_handles env).implements (sysfsLoop_law env) fun _ _ => rfl
  have fetched : ∀ data, .rteipcSend data ∈ events → Fetched env.malloc (sized data) := fun data member =>
    ⟨⟨rfl, (good data member).1⟩, (good data member).2⟩
  exact bridge_serves_iff implements st events fetched

end Sysfs

/-- An attribute is read and set. -/
theorem sysfs_served_iff_on :
    Always (BridgeStep (sysfsBackend onesDevice))
        (ServesAlways (sysfsBackend onesDevice) (sysfsServer onesDevice) SysfsState.seen ((), [])
          fun _ msgs => ∀ msg ∈ msgs, onesDevice.strndup msg.2.length = true)
        (.ok (Bridge.start ⟨(), [], none⟩)) [.rteipcSend [111, 110], .rteipcSend [111, 61, 49], .arrive 20, .onData] ↔
      Guarded (BridgeStep (sysfsBackend onesDevice))
        (ReadyBatch fun _ msgs => ∀ msg ∈ msgs, onesDevice.strndup msg.2.length = true) (.ok (Bridge.start ⟨(), [], none⟩))
        [.rteipcSend [111, 110], .rteipcSend [111, 61, 49], .arrive 20, .onData] := by
  apply sysfs_served_iff onesDevice ⟨(), [], none⟩
  intro data member
  simp only [List.mem_cons, BridgeEvent.rteipcSend.injEq, reduceCtorEq, List.not_mem_nil, or_false] at member
  obtain rfl | rfl := member
  · exact ⟨⟨by decide, by decide⟩, rfl⟩
  · exact ⟨⟨by decide, by decide⟩, rfl⟩

end Rteipc
