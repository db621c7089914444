import Rteipc.Rtemgrd.Owners
import Rteipc.Rtemgrd.Requests

namespace Rteipc

/-! Which messages the daemon survives: those of clients that spare the control
interface, take no name twice and leave no partner behind lead to states in which
every message that can be read is handled, with no bad pointer followed. -/

open Data

/-- A route command in the message leaves no raw partner of its two interfaces behind. -/
def RoutesClean (lib : PacketLib) (st : Daemon (Dtbl EpPtr)) (msg : LoopMessage) : Prop :=
  ∀ d, Requests lib msg d → d.cmd.action.toNat = 4 →
    LeavesNoPartner st (.rtecmdRoute msg.memory.left msg.memory.right d)

/-- Memory is found for an interface that is opened, and the clients are considerate. -/
structure Considerate (lib : PacketLib) (st : Daemon (Dtbl EpPtr)) (msg : LoopMessage) : Prop where
  plenty : msg.memory.iface.Plenty
  spared : CtrlSpared lib msg
  opens : OpensClean lib st msg
  routes : RoutesClean lib st msg

/-- What the handler of the action reads of the packet is there. -/
def CommandSound (lib : PacketLib) (memory : CtlMemory) (st : Daemon (Dtbl EpPtr)) (d : RtemgrData) (data : List UInt8) : Prop :=
  match d.cmd.action.toNat with
  | 2 => OpenSound st memory.iface d
  | 3 => ∀ intf ∈ d.interfaces, ¬NamesCtrl intf
  | 5 => d.interfaces ≠ []
  | 6 => XferSound lib memory.managed st data
  | 7 => d.interfaces ≠ [] ∧
      ∀ self, namedIface st d = some self → self.partner = none → ∃ text, catText memory.cat self = .ok text
  | _ => True

/-- The packet is read within its memory, and its command and the reply to it are sound. -/
structure ControlSound (lib : PacketLib) (st : Daemon (Dtbl EpPtr)) (msg : LoopMessage) : Prop where
  plenty : msg.memory.Plenty
  read : receivePacket lib msg.memory.packet msg.data ≠ .error .overflow
  command : ∀ d, receivePacket lib msg.memory.packet msg.data = .ok (some d) → CommandSound lib msg.memory st d msg.data
  reply : ∀ d, receivePacket lib msg.memory.packet msg.data = .ok (some d) →
    (ctlReply msg.memory st d).cmd.val.v = none → (ctlReply msg.memory st d).cmd.val.s = 0

structure ManagedSound (lib : PacketLib) (st : Daemon (Dtbl EpPtr)) (msg : LoopMessage) : Prop where
  read : receivePacket lib msg.memory.managed.packet msg.data ≠ .error .overflow
  payload : XferSound lib msg.memory.managed st msg.data

/-- Nothing is asked of a message for a raw interface. -/
def MessageSound (lib : PacketLib) (st : Daemon (Dtbl EpPtr)) (msg : LoopMessage) : Prop :=
  if strmatch msg.loop.name rtemgrdCtlport then ControlSound lib st msg
  else
    ∀ iface self, msg.loop.arg = some iface → st.ifaces.get iface = some self → self.handler = some .managed →
      ManagedSound lib st msg

def Survives (lib : PacketLib) (st : Daemon (Dtbl EpPtr)) : Prop :=
  ∀ msg : LoopMessage, msg.loop ∈ st.lib.loList → msg.loop.cb = some .defaultDomainHandler → MessageSound lib st msg →
    ∃ next, RtemgrdStep dtblTable lib st msg next

/-! ## Routes -/

section Routes

variable {lib : PacketLib} {st next : Daemon (Dtbl EpPtr)} {msg : LoopMessage} {iface : IfacePtr}

theorem ifaceManagedHandler_sameRoutes {memory : ManagedMemory} {data : List UInt8}
    (returned : ifaceManagedHandler lib memory st iface data = .ok next) : SameRoutes st next := by
  obtain ⟨call, -, returned⟩ := bind_ok returned
  split at returned
  next =>
    cases returned
    exact .of_lib st st.lib
  next =>
    obtain ⟨sent, -, returned⟩ := bind_ok returned
    cases returned
    exact .of_lib st sent.1

/-- At most one queue is another after a cat. -/
theorem doRtecmdCat_ok {memory : CatMemory} {d : RtemgrData} {result : RtemgrData × Int}
    (returned : doRtecmdCat memory st d = .ok (next, result)) :
    next = st ∨ ∃ iface pending, next = { st with ifaces := st.ifaces.modify iface fun self => { self with pending } } := by
  unfold doRtecmdCat at returned
  split at returned
  next => cases returned
  next =>
    split at returned
    next =>
      cases returned
      exact .inl rfl
    next iface _ =>
      obtain ⟨self, -, returned⟩ := bind_ok returned
      split at returned
      next =>
        obtain ⟨_, -, returned⟩ := bind_ok returned
        cases returned
        exact .inl rfl
      next =>
        split at returned
        next =>
          cases returned
          exact .inl rfl
        next =>
          obtain ⟨⟨whole, pending, buf⟩, -, returned⟩ := bind_ok returned
          dsimp only at returned
          split at returned
          next =>
            cases returned
            exact .inr ⟨iface, pending, rfl⟩
          next =>
            cases returned
            exact .inr ⟨iface, pending, rfl⟩

theorem doRtecmdCat_sameRoutes {memory : CatMemory} {d : RtemgrData} {result : RtemgrData × Int}
    (returned : doRtecmdCat memory st d = .ok (next, result)) : SameRoutes st next := by
  obtain rfl | ⟨iface, pending, rfl⟩ := doRtecmdCat_ok returned
  · exact .of_lib next next.lib
  · exact .of_modify st iface _ (fun _ _ => ⟨rfl, rfl⟩) fun _ _ _ => rfl

theorem ctlAction_mutual {d reply : RtemgrData} (inv : RouteInv st) (good : Mutual st.partners) (requested : Requests lib msg d)
    (clean : RoutesClean lib st msg) (returned : ctlAction dtblTable lib msg.memory st d msg.data = .ok (next, reply)) :
    Mutual next.partners := by
  have same : SameRoutes st next → Mutual next.partners := by
    intro same
    rw [same.same_partners]
    exact good
  have called : ∀ call, DaemonStep dtblTable lib.toEmitLib st call next → LeavesNoPartner st call → Mutual next.partners :=
    fun call taken => ((inv.step taken).2 good).mpr
  unfold ctlAction at returned
  split at returned
  next =>
    obtain ⟨done, -, returned⟩ := map_ok returned
    cases returned
    exact good
  next =>
    obtain ⟨done, opened, returned⟩ := map_ok returned
    cases returned
    exact called (.rtecmdOpen msg.memory.iface d) ⟨done.2, opened⟩ trivial
  next =>
    obtain ⟨done, closed, returned⟩ := map_ok returned
    cases returned
    exact called (.rtecmdClose d) ⟨done.2, closed⟩ trivial
  next action =>
    obtain ⟨done, routed, returned⟩ := map_ok returned
    cases returned
    exact called (.rtecmdRoute msg.memory.left msg.memory.right d) ⟨done.2, routed⟩ (clean d requested action)
  next =>
    obtain ⟨done, forgot, returned⟩ := map_ok returned
    cases returned
    exact called (.rtecmdForget d) ⟨done.2, forgot⟩ trivial
  next =>
    split at returned
    next => cases returned
    next =>
      obtain ⟨done, handled, returned⟩ := map_ok returned
      cases returned
      exact same (ifaceManagedHandler_sameRoutes handled)
  next =>
    obtain ⟨done, shown, returned⟩ := map_ok returned
    cases returned
    exact same (doRtecmdCat_sameRoutes shown)
  next =>
    cases returned
    exact good

/-- A considerate message leaves the routes mutual. -/
theorem RtemgrdStep.mutual (taken : RtemgrdStep dtblTable lib st msg next) (inv : RouteInv st) (good : Mutual st.partners)
    (clean : RoutesClean lib st msg) : Mutual next.partners := by
  have same : SameRoutes st next → Mutual next.partners := by
    intro same
    rw [same.same_partners]
    exact good
  obtain ⟨-, -, reply, returned⟩ := taken
  unfold defaultDomainHandler at returned
  split at returned
  next control =>
    obtain ⟨received, read, returned⟩ := bind_ok returned
    split at returned
    next =>
      cases returned
      exact good
    next d =>
      obtain ⟨⟨middle, replied⟩, action, returned⟩ := bind_ok returned
      obtain ⟨ep, moved, rfl⟩ := sendReply_transferred returned
      rw [(SameRoutes.of_lib middle ep).same_partners]
      exact ctlAction_mutual inv good ⟨control, d, read, rfl⟩ clean action
  next =>
    split at returned
    next =>
      cases returned
      exact good
    next iface _ =>
      obtain ⟨after, handler, returned⟩ := map_ok returned
      cases returned
      obtain ⟨self, -, handler⟩ := bind_ok handler
      split at handler
      next =>
        cases handler
        exact good
      next => exact same (ifaceRawHandler_sameRoutes handler)
      next => exact same (ifaceManagedHandler_sameRoutes handler)

/-- Where routes are mutual, no partner dangles. -/
theorem partnersLive_of_mutual (good : Mutual st.partners) : PartnersLive st := by
  have routes := routesMutual_iff.mpr good
  intro iface self listed live partner names
  exact Option.isSome_iff_exists.mp (routes.present iface self partner listed live names).2

theorem CloseSound.of_mutual {interfaces : List RtemgrIntf} (inv : RouteInv st) (good : Mutual st.partners) :
    CloseSound st interfaces := by
  induction interfaces generalizing st with
  | nil => trivial
  | cons intf rest ih =>
      unfold CloseSound
      cases found : ifaceOf st intf with
      | none => exact ih inv good
      | some iface =>
          have listed := ifaceOf_listed found
          obtain ⟨self, live⟩ := inv.live listed
          refine ⟨fun owner ownerLive _ => partnersLive_of_mutual good iface owner listed ownerLive, fun next free => ?_⟩
          obtain ⟨graph, nextInv⟩ := ifaceFree_partners inv listed free
          apply ih nextInv
          rw [graph]
          exact good.remove (partners_some.mpr ⟨listed, self, live, rfl⟩) inv.apart

end Routes

/-! ## One message -/

/-- The daemon serves, and its callbacks and routes lead where they should. -/
structure Healthy (ctrl : IfacePtr) (wire : Wire) (st : Daemon (Dtbl EpPtr)) : Prop where
  serving : Serving ctrl wire st
  owners : OwnersCalled st
  routes : Mutual st.partners

section Healthy

variable {lib : PacketLib} {st next : Daemon (Dtbl EpPtr)} {msg : LoopMessage} {ctrl iface : IfacePtr} {wire : Wire}
  {memory : CtlMemory} {d : RtemgrData} {data : List UInt8} {self : Interface}

theorem Healthy.step (healthy : Healthy ctrl wire st) (considerate : Considerate lib st msg)
    (taken : RtemgrdStep dtblTable lib st msg next) : Healthy ctrl wire next := by
  obtain ⟨serving, owners, routes⟩ := healthy
  refine ⟨serving.step considerate.plenty considerate.spared taken, ?_, ?_⟩
  · exact (owners.step_iff serving.connections serving.daemon taken).mpr considerate.opens
  · exact taken.mutual serving.daemon.routes routes considerate.routes

/-- The pointers a command follows are good where the routes are mutual. -/
theorem CommandSound.ctlSound (sound : CommandSound lib memory st d data) (inv : RouteInv st) (good : Mutual st.partners) :
    CtlSound lib memory st d data := by
  have partners := partnersLive_of_mutual good
  have named : ∀ self, namedIface st d = some self → PartnerLive st self := by
    intro self found
    obtain ⟨iface, looked, live⟩ := Option.bind_eq_some_iff.mp found
    obtain ⟨intf, -, isFound⟩ := Option.bind_eq_some_iff.mp looked
    exact partners iface self (ifaceOf_listed isFound) live
  unfold CommandSound at sound
  unfold CtlSound
  split
  case h_1 => exact partners
  case h_2 action =>
    simp only [action] at sound
    exact sound
  case h_3 action =>
    simp only [action] at sound
    exact ⟨CloseSound.of_mutual inv good, sound⟩
  case h_4 => trivial
  case h_5 action =>
    simp only [action] at sound
    exact ⟨sound, fun self found _ => named self found⟩
  case h_6 action =>
    simp only [action] at sound
    exact sound
  case h_7 action =>
    simp only [action] at sound
    exact ⟨sound.1, named, sound.2⟩
  case h_8 => trivial

theorem receivePacket_error {memory : PacketMemory} {fault : Fault} (read : receivePacket lib memory data = .error fault) :
    fault = .overflow := by
  unfold receivePacket at read
  split at read
  · cases read
  · exact (Except.error.inj read).symm
  · cases read

theorem Healthy.control (healthy : Healthy ctrl wire st) (sound : ControlSound lib st msg) :
    ∃ next reply, processCtlport dtblTable lib msg.memory st msg.data = .ok (next, reply) := by
  have serving := healthy.serving
  cases read : receivePacket lib msg.memory.packet msg.data with
  | error fault =>
      rw [receivePacket_error read] at read
      exact (sound.read read).elim
  | ok received =>
      cases received with
      | none =>
          refine ⟨st, none, ?_⟩
          simp only [processCtlport, read, bind, Except.bind]
      | some d =>
          have command := (sound.command d read).ctlSound serving.daemon.routes healthy.routes
          obtain ⟨after, kept, processed⟩ := serving.sends sound.plenty read command
          have notNull : ¬((ctlReply msg.memory st d).cmd.val.v = none ∧ (ctlReply msg.memory st d).cmd.val.s ≠ 0) :=
            fun null => null.2 (sound.reply d read null.1)
          rw [processed, sendReply, if_neg notNull]
          simp only [Bool.not_true, Bool.false_eq_true, if_false]
          split
          next => exact ⟨after, none, rfl⟩
          next document _ =>
            obtain ⟨ep, sent, -⟩ := kept.reply document
            simp only [sent, bind, Except.bind]
            exact ⟨_, _, rfl⟩

theorem Healthy.raw (healthy : Healthy ctrl wire st) (listed : Listed st iface) (memory : Memory) (data : List UInt8) :
    ∃ next, ifaceRawHandler lib.toEmitLib memory st iface data = .ok next := by
  obtain ⟨self, live⟩ := healthy.serving.daemon.routes.live listed
  cases names : self.partner with
  | none =>
      simp only [ifaceRawHandler, deref_live live, names, bind, Except.bind]
      exact ⟨_, rfl⟩
  | some partner =>
      obtain ⟨other, there⟩ := partnersLive_of_mutual healthy.routes iface self listed live partner names
      obtain ⟨ep, -, handled⟩ := ifaceRawHandler_sends healthy.serving.loops live names there memory data
      exact ⟨_, handled⟩

theorem Healthy.managed (healthy : Healthy ctrl wire st) (listed : Listed st iface) (sound : ManagedSound lib st msg) :
    ∃ next, ifaceManagedHandler lib msg.memory.managed st iface msg.data = .ok next := by
  obtain ⟨self, live⟩ := healthy.serving.daemon.routes.live listed
  cases read : receivePacket lib msg.memory.managed.packet msg.data with
  | error fault =>
      rw [receivePacket_error read] at read
      exact (sound.read read).elim
  | ok received =>
      cases received with
      | none =>
          simp only [ifaceManagedHandler, managedCall, read, bind, Except.bind]
          exact ⟨st, rfl⟩
      | some d =>
          exact ifaceManagedHandler_returns healthy.serving.daemon.routes healthy.serving.loops live
            (partnersLive_of_mutual healthy.routes iface self listed live) read sound.payload

theorem Healthy.handler (healthy : Healthy ctrl wire st) (listed : Listed st iface)
    (sound : ∀ self, st.ifaces.get iface = some self → self.handler = some .managed → ManagedSound lib st msg) :
    ∃ next, ifaceHandler lib msg st iface = .ok next := by
  obtain ⟨self, live⟩ := healthy.serving.daemon.routes.live listed
  simp only [ifaceHandler, deref_live live, bind, Except.bind]
  split
  next => exact ⟨st, rfl⟩
  next => exact healthy.raw listed msg.raw msg.data
  next handler => exact healthy.managed listed (sound self live handler)

theorem Healthy.survives (healthy : Healthy ctrl wire st) : Survives lib st := by
  intro msg member called sound
  unfold MessageSound at sound
  suffices handled : ∃ next reply, defaultDomainHandler dtblTable lib st msg = .ok (next, reply) by
    obtain ⟨next, reply, handled⟩ := handled
    exact ⟨next, member, called, reply, handled⟩
  unfold defaultDomainHandler
  split at sound
  next control =>
    rw [if_pos control]
    exact healthy.control sound
  next other =>
    rw [if_neg other]
    cases isArg : msg.loop.arg with
    | none => exact ⟨st, none, rfl⟩
    | some iface =>
        have isOf := healthy.owners.owned msg.loop member iface isArg
        obtain ⟨next, handled⟩ := healthy.handler isOf.listed (sound iface · isArg)
        simp only [handled]
        exact ⟨next, none, rfl⟩

end Healthy

/-! ## Every run -/

section Runs

variable {st : Daemon (Dtbl EpPtr)}

/-- In every state of every run of considerate messages, each message that can be
read at one of the loops is handled. -/
theorem daemon_survives {outcome : IfaceOutcome} (lib : PacketLib) (started : rtemgrd dtblTable outcome = .ok (st, 0))
    {msgs : List LoopMessage} (guarded : Guarded (RtemgrdStep dtblTable lib) (Considerate lib) st msgs) :
    Always (RtemgrdStep dtblTable lib) (Survives lib) st msgs := by
  obtain ⟨ctrl, wire, serving⟩ := rtemgrd_serving started
  have healthy : Healthy ctrl wire st := ⟨serving, rtemgrd_owners started, (rtemgrd_routes started).2⟩
  have preserved : ∀ before msg after, Healthy ctrl wire before → Considerate lib before msg →
      RtemgrdStep dtblTable lib before msg after → Healthy ctrl wire after :=
    fun _ _ _ healthy considerate taken => healthy.step considerate taken
  exact guarded.always preserved (fun _ healthy => healthy.survives) healthy

/-- An interface is opened under a name of its own. -/
theorem opening_considerate : ∃ msg,
    (∃ next, RtemgrdStep dtblTable (.receiving (namedPacket 2 ["a"])) .started msg next) ∧
      Considerate (.receiving (namedPacket 2 ["a"])) .started msg := by
  obtain ⟨lo, member, named, called⟩ := started_loop
  let lib : PacketLib := .receiving (namedPacket 2 ["a"])
  let msg : LoopMessage := ⟨.succeeds, plentyOfMemory 0, lo, []⟩
  have control : strmatch msg.loop.name rtemgrdCtlport = true := strmatch_iff.mpr named
  have returns : (processCtlport dtblTable lib .succeeds .started []).toBool = true := by decide +kernel
  have taken : ∃ next, RtemgrdStep dtblTable lib .started msg next := by
    cases handled : processCtlport dtblTable lib .succeeds .started [] with
    | error fault =>
        rw [handled] at returns
        cases returns
    | ok done =>
        refine ⟨done.1, member, called, done.2, ?_⟩
        rw [defaultDomainHandler, if_pos control]
        exact handled
  have requested : ∀ d, Requests lib msg d →
      d.cmd.action.toNat = 2 ∧ d.interfaces = (namedPacket 2 ["a"]).interfaces.map storedIntf := by
    rintro d ⟨-, parsed, received, rfl⟩
    obtain ⟨same, sameReceived, action, interfaces, -⟩ := receivePacket_emit (namedPacket 2 ["a"]) [] (by decide) (by decide)
    cases sameReceived.symm.trans received
    exact ⟨congrArg BitVec.toNat action, interfaces⟩
  have considerate : Considerate lib .started msg := by
    refine ⟨CtlMemory.succeeds_plenty.iface, ?_, ?_, ?_⟩
    · intro d asked action
      cases (requested d asked).1.symm.trans action
    · intro d asked _ intf domain builds
      have first := builds.first
      rw [(requested d asked).2] at first
      have free : (lookupLo Daemon.started.lib.loList intf.name.text).isNone = true := by
        rw [← Option.some.inj first]
        decide +kernel
      have stored : ∀ lib name, ¬Orphans lib CtlMemory.succeeds.iface.id name := by
        rintro lib name ⟨-, lost⟩
        cases lost
      refine ⟨Option.isNone_iff_eq_none.mp free, stored _ _, ?_⟩
      rintro same opened id opens ⟨-, lost⟩
      cases lost
    · intro d asked action
      cases (requested d asked).1.symm.trans action
  exact ⟨msg, taken, considerate⟩

theorem daemon_survives_open : ∃ msg,
    (∃ next, RtemgrdStep dtblTable (.receiving (namedPacket 2 ["a"])) .started msg next) ∧
      Always (RtemgrdStep dtblTable (.receiving (namedPacket 2 ["a"]))) (Survives (.receiving (namedPacket 2 ["a"]))) .started
        [msg] := by
  obtain ⟨msg, taken, considerate⟩ := opening_considerate
  exact ⟨msg, taken, daemon_survives _ rtemgrd_started fun _ _ => ⟨considerate, trivial⟩⟩

end Runs

end Rteipc
