import Rteipc.Rtemgrd.Requests

namespace Rteipc

/-! What becomes of the queue of an interface that is shown with `cat`. -/

open Data

/-! ## The loop over a queue of frames -/

section Queue

variable {memory : CatMemory} {busType : BitVec 32} {waiting : List (List UInt8)} {msg : List UInt8}

/-- Each message is allocated, with a round less for every one before it. -/
def CatMemory.Allocates (memory : CatMemory) : Nat → List (List UInt8) → Prop
  | round + 1, msg :: rest => memory.malloc round msg.length = true ∧ memory.Allocates round rest
  | _, _ => True

theorem drain_refused {malloc : Nat → Bool} (framed : Framed msg) (refused : malloc msg.length = false) (rest : Evbuffer) :
    rteipcMsgDrain malloc (frame msg ++ rest) = (.failed, frame msg ++ rest) := by
  have length := msgLength_frame framed.2 rest
  have some : ¬msg.length = 0 := fun zero => framed.1 (List.length_eq_zero_iff.mp zero)
  simp only [rteipcMsgDrain, length, if_neg some, if_pos refused]

/-- The loop goes through exactly if every message is allocated and has a text. -/
theorem catLoop_whole_iff (framed : ∀ msg ∈ waiting, Framed msg) {fuel : Nat} (enough : waiting.length < fuel)
    {buf pending total : Evbuffer} :
    catLoop memory busType fuel (waiting.flatMap frame) buf = .ok (true, pending, total) ↔
      memory.Allocates fuel waiting ∧ pending = [] ∧
        ∃ text, catLines memory busType fuel (waiting.map sized) = .ok text ∧ total = buf ++ text := by
  induction waiting generalizing fuel buf with
  | nil =>
      cases fuel with
      | zero => cases enough
      | succ fuel =>
          simp only [List.flatMap_nil, catLoop, drain_nil, CatMemory.Allocates, List.map_nil, catLines, true_and,
            Except.ok.injEq, Prod.mk.injEq]
          constructor
          · rintro ⟨rfl, rfl⟩
            exact ⟨rfl, [], rfl, (List.append_nil buf).symm⟩
          · rintro ⟨rfl, _, rfl, rfl⟩
            exact ⟨rfl, (List.append_nil buf).symm⟩
  | cons msg rest ih =>
      have first := framed msg List.mem_cons_self
      have later := fun other member => framed other (List.mem_cons_of_mem msg member)
      cases fuel with
      | zero => cases enough
      | succ fuel =>
          rw [List.flatMap_cons, catLoop, CatMemory.Allocates, List.map_cons, sized, catLines]
          cases allocated : memory.malloc fuel msg.length with
          | false =>
              rw [drain_refused first allocated]
              refine iff_of_false ?_ fun whole => Bool.false_ne_true whole.1.1
              simp
          | true =>
              rw [drain_whole first.2 first.1 allocated]
              cases printed : catLine memory fuel busType msg with
              | error fault =>
                  refine iff_of_false ?_ fun whole => ?_
                  · simp [printed, bind, Except.bind]
                  · obtain ⟨-, -, text, lines, -⟩ := whole
                    cases lines
              | ok line =>
                  have loop := @ih later fuel (Nat.lt_of_succ_lt_succ enough) (buf ++ line)
                  simp only [printed, bind, Except.bind, loop, true_and]
                  refine and_congr_right fun _ => and_congr_right fun _ => ?_
                  cases others : catLines memory busType fuel (rest.map sized) with
                  | error fault => simp
                  | ok text => simp [eq_comm]

theorem drain_length {malloc : Nat → Bool} {buf rest : Evbuffer} {result : DrainResult}
    (drained : rteipcMsgDrain malloc buf = (result, rest)) : rest.length ≤ buf.length := by
  by_cases message : result.ret = 1
  · simp only [rteipcMsgDrain] at drained
    split at drained
    · rw [← (Prod.mk.inj drained).2]
    split at drained
    · rw [← (Prod.mk.inj drained).2]
    · rw [← (Prod.mk.inj drained).2, List.length_drop, List.length_drop]
      omega
  · rw [rteipcMsgDrain_kept drained (decide_eq_false message)]

theorem catLoop_length {fuel : Nat} {pending buf left text : Evbuffer} {whole : Bool}
    (returned : catLoop memory busType fuel pending buf = .ok (whole, left, text)) : left.length ≤ pending.length := by
  induction fuel generalizing pending buf with
  | zero =>
      cases returned
      exact Nat.le_refl _
  | succ fuel ih =>
      rw [catLoop] at returned
      cases drained : rteipcMsgDrain (memory.malloc fuel) pending with
      | mk result rest =>
          rw [drained] at returned
          cases result with
          | message size msg =>
              obtain ⟨line, -, returned⟩ := bind_ok returned
              exact (ih returned).trans (drain_length drained)
          | empty | failed =>
              cases returned
              rw [rteipcMsgDrain_kept drained rfl]

end Queue

/-! ## What the texts show -/

section Lines

variable {memory : CatMemory} {busType : BitVec 32} {waiting : List (List UInt8)} {msg line text : List UInt8}

/-- A line with all of a message in it: every byte, or the value and the two
times of a GPIO event. -/
def ShowsMessage (memory : CatMemory) (busType : BitVec 32) (msg line : List UInt8) : Prop :=
  if busType = EpType.i2c.number ∨ busType = EpType.spi.number then
    line = ascii "[" ++ msg.flatMap (fun byte => 32 :: printHexByte byte) ++ ascii " ]\n"
  else if busType = EpType.gpio.number then
    msg.length = 17 ∧ msg.headD 0 ≤ 1 ∧ ∃ date, memory.strftime (longAt msg 1) = some date ∧
      line = ascii "[" ++ date ++ ascii "." ++ printPadded (longAt msg 9) ++ ascii "] " ++
        ascii (if msg.headD 0 = 0 then "Hi" else "Lo") ++ ascii " ==> " ++
        ascii (if msg.headD 0 = 0 then "Lo" else "Hi") ++ [10]
  else line = msg ++ [10]

def ShowsAll (memory : CatMemory) (busType : BitVec 32) (waiting : List (List UInt8)) (text : List UInt8) : Prop :=
  ∃ lines, List.Forall₂ (ShowsMessage memory busType) waiting lines ∧ text = lines.flatten

/-- A GPIO message is an event whose time `localtime` finds, a text has no NUL in it. -/
def Legible (memory : CatMemory) (busType : BitVec 32) (msg : List UInt8) : Prop :=
  if busType = EpType.i2c.number ∨ busType = EpType.spi.number then True
  else if busType = EpType.gpio.number then
    msg.length = 17 ∧ msg.headD 0 ≤ 1 ∧ (memory.strftime (longAt msg 1)).isSome = true
  else 0 ∉ msg

/-- Eight bytes that are all in the message do not depend on what follows it. -/
theorem longAt_append {offset : Nat} (inside : offset + 8 ≤ msg.length) (beyond : List UInt8) :
    longAt (msg ++ beyond) offset = longAt msg offset := by
  have early : offset ≤ msg.length := by omega
  have enough : 8 ≤ (msg.drop offset).length := by
    rw [List.length_drop]
    omega
  rw [longAt, longAt, List.drop_append_of_le_length early, List.take_append_of_le_length enough]

theorem catLine_legible (legible : Legible memory busType msg) (round : Nat) :
    ∃ line, catLine memory round busType msg = .ok line ∧ ShowsMessage memory busType msg line := by
  unfold Legible at legible
  unfold catLine ShowsMessage
  split at legible
  next bytes =>
    simp only [if_pos bytes]
    exact ⟨_, rfl, rfl⟩
  next notBytes =>
    split at legible
    next gpio =>
      obtain ⟨size, value, found⟩ := legible
      obtain ⟨date, found⟩ := Option.isSome_iff_exists.mp found
      have head : (msg ++ memory.beyond round).headD 0 = msg.headD 0 := by
        cases msg with
        | nil => nomatch size
        | cons byte rest => rfl
      simp only [if_neg notBytes, if_pos gpio, head, longAt_append (show 1 + 8 ≤ msg.length by omega),
        longAt_append (show 9 + 8 ≤ msg.length by omega), found]
      exact ⟨_, rfl, size, value, date, rfl, rfl⟩
    next notGpio =>
      simp only [if_neg notBytes, if_neg notGpio, cString_eq_self legible]
      exact ⟨_, rfl, rfl⟩

theorem nul_not_mem_catLines (notBytes : ¬(busType = EpType.i2c.number ∨ busType = EpType.spi.number))
    (notGpio : busType ≠ EpType.gpio.number) {round : Nat} {msgs : List (Nat × List UInt8)}
    (printed : catLines memory busType round msgs = .ok text) : 0 ∉ text := by
  induction msgs generalizing round text with
  | nil =>
      cases round <;> cases printed <;> simp
  | cons msg rest ih =>
      cases round with
      | zero =>
          cases printed
          simp
      | succ round =>
          obtain ⟨line, one, printed⟩ := bind_ok printed
          obtain ⟨later, others, printed⟩ := bind_ok printed
          cases printed
          simp only [catLine, if_neg notBytes, if_neg notGpio, Except.ok.injEq] at one
          subst one
          simp [nul_not_mem_cString, ih others]

theorem shows_legible (round : Nat) (printed : catLines memory busType round (waiting.map sized) = .ok text)
    (shows : ShowsAll memory busType waiting text) : ∀ msg ∈ waiting, Legible memory busType msg := by
  obtain ⟨lines, each, rfl⟩ := shows
  intro msg member
  obtain ⟨line, inLines, shown⟩ : ∃ line ∈ lines, ShowsMessage memory busType msg line := by
    obtain ⟨index, inside, rfl⟩ := List.mem_iff_getElem.mp member
    have sameLength := each.length_eq
    exact ⟨lines[index], List.getElem_mem _, each.get inside (sameLength ▸ inside)⟩
  unfold ShowsMessage at shown
  unfold Legible
  split at shown
  next bytes => rw [if_pos bytes]; trivial
  next notBytes =>
    rw [if_neg notBytes]
    split at shown
    next gpio =>
      obtain ⟨size, value, date, found, -⟩ := shown
      rw [if_pos gpio]
      exact ⟨size, value, Option.isSome_iff_exists.mpr ⟨date, found⟩⟩
    next notGpio =>
      rw [if_neg notGpio]
      intro nul
      have inText : 0 ∈ lines.flatten := List.mem_flatten.mpr ⟨line, inLines, by simp [shown, nul]⟩
      exact nul_not_mem_catLines notBytes notGpio printed inText

theorem catLines_legible (legible : ∀ msg ∈ waiting, Legible memory busType msg) {round : Nat}
    (enough : waiting.length ≤ round) :
    ∃ text, catLines memory busType round (waiting.map sized) = .ok text ∧ ShowsAll memory busType waiting text := by
  induction waiting generalizing round with
  | nil => exact ⟨[], by cases round <;> rfl, [], .nil, rfl⟩
  | cons msg rest ih =>
      cases round with
      | zero => nomatch enough
      | succ round =>
          obtain ⟨line, printed, shown⟩ := catLine_legible (legible msg List.mem_cons_self) round
          obtain ⟨later, others, lines, each, rfl⟩ :=
            ih (fun other member => legible other (List.mem_cons_of_mem _ member)) (Nat.le_of_succ_le_succ enough)
          refine ⟨line ++ lines.flatten, ?_, line :: lines, .cons shown each, rfl⟩
          rw [List.map_cons, sized, catLines, printed, others]
          rfl

end Lines

/-! ## A cat command -/

section Command

variable {Table : Type} {tbl : DescTable Table} {lib : PacketLib} {memory : CtlMemory} {st : Daemon Table}
  {d : RtemgrData} {data : List UInt8} {iface : IfacePtr} {self : Interface} {waiting : List (List UInt8)}

/-- The reply that is sent shows every message that waited, in order, or the queue is as it was. -/
def CatKeeps (tbl : DescTable Table) (lib : PacketLib) (memory : CtlMemory) (st : Daemon Table) (d : RtemgrData)
    (data : List UInt8) (iface : IfacePtr) (self : Interface) (waiting : List (List UInt8)) : Prop :=
  ∃ after reply, ctlAction tbl lib memory st (d.withError (-1)) data = .ok (after, reply) ∧
    ((reply.cmd.error = 0 ∧ ShowsAll memory.cat self.busType waiting reply.cmd.val.payload ∧
        ∃ next document, processCtlport tbl lib memory st data = .ok (next, some (document, 0)) ∧
          document = lib.write (rtemgrDataEmit lib.encode reply)) ∨
      (after.ifaces.get iface).map Interface.pending = some self.pending)

/-- The request with the texts as its payload and no error. -/
def catReply (d : RtemgrData) (text : List UInt8) : RtemgrData :=
  RtemgrData.withError { d with cmd.val := { d.cmd.val with v := some text, s := BitVec.ofNat 64 text.length } } 0

/-- The reply fits the buffer, its allocations succeed, and the control loop takes it. -/
def SendsTexts (lib : PacketLib) (memory : CtlMemory) (st : Daemon Table) (d : RtemgrData) (text : List UInt8) : Prop :=
  memory.cat.value = true ∧ memory.emit = true ∧
    (lib.write (rtemgrDataEmit lib.encode (catReply d text))).length ≤ 4096 ∧
      ∃ ep, rteipcXfer st.lib rtemgrdCtlport (lib.write (rtemgrDataEmit lib.encode (catReply d text))) = .ok (ep, 0)

/-- Nothing waits, or nothing is taken off the queue, or every message is
allocated and can be shown, and the texts can be sent. -/
def CatSafe (lib : PacketLib) (memory : CtlMemory) (st : Daemon Table) (d : RtemgrData) (self : Interface)
    (waiting : List (List UInt8)) : Prop :=
  (∀ first ∈ waiting.head?, memory.cat.evbuffer = true →
    memory.cat.malloc self.pending.length first.length = true →
      memory.cat.Allocates (self.pending.length + 1) waiting ∧
        (∀ msg ∈ waiting, Legible memory.cat self.busType msg) ∧
          ∃ text, catLines memory.cat self.busType (self.pending.length + 1) (waiting.map sized) = .ok text ∧
            SendsTexts lib memory st d text)

/-- What the loop leaves behind, and what is answered. -/
def catDone (memory : CatMemory) (st : Daemon Table) (d : RtemgrData) (iface : IfacePtr) :
    Bool × Evbuffer × Evbuffer → Daemon Table × RtemgrData × Int
  | (whole, pending, buf) =>
      ({ st with ifaces := st.ifaces.modify iface fun self => { self with pending } },
        if whole then catValue memory d buf else (d, -1))

theorem doRtecmdCat_alone {memory : CatMemory} (names : d.interfaces.head?.bind (ifaceOf st) = some iface)
    (live : st.ifaces.get iface = some self) (alone : self.partner = none) (room : memory.evbuffer = true) :
    doRtecmdCat memory st d =
      (catLoop memory self.busType (self.pending.length + 1) self.pending []).map (catDone memory st d iface) := by
  unfold doRtecmdCat
  cases interfaces : d.interfaces with
  | nil =>
      rw [interfaces] at names
      nomatch names
  | cons intf rest =>
      rw [interfaces, List.head?_cons, Option.bind_some] at names
      simp only [names, deref_live live, alone, room, bind, Except.bind, Bool.not_true, Bool.false_eq_true, if_false]
      cases catLoop memory self.busType (self.pending.length + 1) self.pending [] with
      | error fault => rfl
      | ok result =>
          obtain ⟨whole, pending, buf⟩ := result
          cases whole <;> rfl

theorem doRtecmdCat_full {memory : CatMemory} (names : d.interfaces.head?.bind (ifaceOf st) = some iface)
    (live : st.ifaces.get iface = some self) (alone : self.partner = none) (full : memory.evbuffer = false) :
    doRtecmdCat memory st d = .ok (st, d, -1) := by
  unfold doRtecmdCat
  cases interfaces : d.interfaces with
  | nil =>
      rw [interfaces] at names
      nomatch names
  | cons intf rest =>
      rw [interfaces, List.head?_cons, Option.bind_some] at names
      simp only [names, deref_live live, alone, full, bind, Except.bind, Bool.not_false, if_true]

theorem ctlAction_cat (cat : d.cmd.action.toNat = 7) :
    ctlAction tbl lib memory st d data =
      (doRtecmdCat memory.cat st d).map fun done => (done.1, done.2.1.withError done.2.2) := by
  simp only [ctlAction, cat]

theorem sendReply_sent_iff {after : Daemon Table} {reply : RtemgrData} :
    (∃ next document, sendReply lib.toEmitLib memory.emit after reply = .ok (next, some (document, 0)) ∧
        document = lib.write (rtemgrDataEmit lib.encode reply)) ↔
      ¬(reply.cmd.val.v = none ∧ reply.cmd.val.s ≠ 0) ∧ memory.emit = true ∧
        (lib.write (rtemgrDataEmit lib.encode reply)).length ≤ 4096 ∧
          ∃ ep, rteipcXfer after.lib rtemgrdCtlport (lib.write (rtemgrDataEmit lib.encode reply)) = .ok (ep, 0) := by
  unfold sendReply
  by_cases null : reply.cmd.val.v = none ∧ reply.cmd.val.s ≠ 0
  · rw [if_pos null]
    exact iff_of_false (by simp) fun sends => sends.1 null
  rw [if_neg null]
  cases emits : memory.emit with
  | false => exact iff_of_false (by simp) fun sends => Bool.false_ne_true sends.2.1
  | true =>
      simp only [emitInto, Bool.not_true, Bool.false_eq_true, if_false]
      by_cases fits : (lib.write (rtemgrDataEmit lib.encode reply)).length ≤ 4096
      · simp only [if_pos fits]
        cases sent : rteipcXfer after.lib rtemgrdCtlport (lib.write (rtemgrDataEmit lib.encode reply)) with
        | error fault => simp [bind, Except.bind]
        | ok done =>
            constructor
            · rintro ⟨next, document, replied, -⟩
              obtain ⟨-, same⟩ := Prod.mk.inj (Except.ok.inj replied)
              obtain ⟨-, ret⟩ := Prod.mk.inj (Option.some.inj same)
              exact ⟨null, trivial, fits, done.1, congrArg Except.ok (Prod.ext rfl ret)⟩
            · rintro ⟨-, -, -, ep, took⟩
              cases took
              exact ⟨_, _, rfl, rfl⟩
      · simp only [if_neg fits]
        exact iff_of_false (by simp) fun sends => fits sends.2.2.1

theorem shows_nonempty {memory : CatMemory} {busType : BitVec 32} {first : List UInt8} {rest : List (List UInt8)}
    {text : List UInt8} (shows : ShowsAll memory busType (first :: rest) text) : text ≠ [] := by
  obtain ⟨lines, each, rfl⟩ := shows
  cases each with
  | @cons _ line _ _ shown _ =>
      have some : line ≠ [] := by
        unfold ShowsMessage at shown
        split at shown
        · simp [shown, ascii]
        split at shown
        · obtain ⟨-, -, date, -, rfl⟩ := shown
          simp [ascii]
        · simp [shown]
      simp [some]

theorem catLoop_takes {memory : CatMemory} {busType : BitVec 32} {fuel : Nat} {first : List UInt8}
    {rest left total buf : Evbuffer} {whole : Bool} (framed : Framed first) (allocated : memory.malloc fuel first.length = true)
    (returned : catLoop memory busType (fuel + 1) (frame first ++ rest) buf = .ok (whole, left, total)) :
    left.length < (frame first ++ rest).length := by
  rw [catLoop, drain_whole framed.2 framed.1 allocated] at returned
  obtain ⟨line, -, returned⟩ := bind_ok returned
  have shorter := catLoop_length returned
  rw [List.length_append, frame, List.length_append, htonl_length]
  omega

/-- What the loop comes to is what the command leaves behind and answers. -/
theorem ctlAction_loop (cat : d.cmd.action.toNat = 7) (names : d.interfaces.head?.bind (ifaceOf st) = some iface)
    (live : st.ifaces.get iface = some self) (alone : self.partner = none) (room : memory.cat.evbuffer = true)
    {after : Daemon Table} {reply : RtemgrData} :
    ctlAction tbl lib memory st (d.withError (-1)) data = .ok (after, reply) ↔
      ∃ whole left text,
        catLoop memory.cat self.busType (self.pending.length + 1) self.pending [] = .ok (whole, left, text) ∧
          after = { st with ifaces := st.ifaces.modify iface fun self => { self with pending := left } } ∧
            reply = if whole then
              (catValue memory.cat (d.withError (-1)) text).1.withError (catValue memory.cat (d.withError (-1)) text).2
              else d.withError (-1) := by
  have sameAction : (d.withError (-1)).cmd.action.toNat = 7 := cat
  have sameNames : (d.withError (-1)).interfaces.head?.bind (ifaceOf st) = some iface := names
  rw [ctlAction_cat sameAction, doRtecmdCat_alone sameNames live alone room]
  cases catLoop memory.cat self.busType (self.pending.length + 1) self.pending [] with
  | error fault => exact iff_of_false nofun fun ⟨_, _, _, loop, _⟩ => nomatch loop
  | ok result =>
      obtain ⟨whole, left, text⟩ := result
      constructor
      · intro acted
        cases acted
        refine ⟨whole, left, text, rfl, rfl, ?_⟩
        cases whole <;> rfl
      · rintro ⟨_, _, _, loop, rfl, rfl⟩
        cases loop
        cases whole <;> rfl

theorem catValue_texts {memory : CatMemory} {text : List UInt8} (some : text ≠ []) :
    (catValue memory (d.withError (-1)) text).2 = 0 ↔ memory.value = true := by
  unfold catValue
  rw [if_neg some]
  cases memory.value with
  | false => exact iff_of_false (by simp) nofun
  | true => exact iff_of_true rfl rfl

theorem catValue_reply {memory : CatMemory} {text : List UInt8} (some : text ≠ []) (room : memory.value = true) :
    (catValue memory (d.withError (-1)) text).1.withError 0 = catReply d text := by
  unfold catValue
  rw [if_neg some, room]
  rfl

theorem catValue_answer {memory : CatMemory} {text : List UInt8} (some : text ≠ []) (room : memory.value = true) :
    (catValue memory (d.withError (-1)) text).1.withError (catValue memory (d.withError (-1)) text).2 =
      catReply d text := by
  rw [(catValue_texts some).mpr room, catValue_reply some room]

theorem catValue_refused {memory : CatMemory} {text : List UInt8} (some : text ≠ []) (full : memory.value = false) :
    (catValue memory (d.withError (-1)) text).2 = -1 := by
  unfold catValue
  rw [if_neg some, full]
  rfl

theorem catReply_payload {text : List UInt8} (object : text.length < 18446744073709551616) :
    (catReply d text).cmd.val.payload = text := by
  have size : (BitVec.ofNat 64 text.length).toNat = text.length := by
    rw [BitVec.toNat_ofNat]
    omega
  change text.take (BitVec.ofNat 64 text.length).toNat = text
  rw [size, List.take_length]

theorem processCtlport_acted {after : Daemon Table} {reply : RtemgrData}
    (received : receivePacket lib memory.packet data = .ok (some d))
    (acted : ctlAction tbl lib memory st (d.withError (-1)) data = .ok (after, reply)) :
    processCtlport tbl lib memory st data = sendReply lib.toEmitLib memory.emit after reply := by
  simp only [processCtlport, received, bind, Except.bind, ctlPacket, acted]

theorem ctlAction_shows (cat : d.cmd.action.toNat = 7) (names : d.interfaces.head?.bind (ifaceOf st) = some iface)
    (live : st.ifaces.get iface = some self) (alone : self.partner = none) (room : memory.cat.evbuffer = true)
    {after : Daemon Table} {reply : RtemgrData} {first : List UInt8} {rest : List (List UInt8)}
    (acted : ctlAction tbl lib memory st (d.withError (-1)) data = .ok (after, reply)) (noError : reply.cmd.error = 0)
    (shows : ShowsAll memory.cat self.busType (first :: rest) reply.cmd.val.payload) :
    ∃ left text, catLoop memory.cat self.busType (self.pending.length + 1) self.pending [] = .ok (true, left, text) ∧
      after = { st with ifaces := st.ifaces.modify iface fun self => { self with pending := left } } ∧
        memory.cat.value = true ∧ reply = catReply d text := by
  obtain ⟨whole, left, text, loop, queue, rfl⟩ := (ctlAction_loop cat names live alone room).mp acted
  have failed : BitVec.ofInt 32 (-1) ≠ 0 := by decide
  cases whole with
  | false => exact (failed noError).elim
  | true =>
      rw [if_pos rfl] at noError shows
      have some : text ≠ [] := by
        intro none
        subst none
        exact shows_nonempty shows (List.take_zero ..)
      have value : memory.cat.value = true := by
        by_contra full
        rw [catValue_refused some (Bool.eq_false_of_not_eq_true full)] at noError
        exact failed noError
      exact ⟨left, text, loop, queue, value, by rw [if_pos rfl, catValue_answer some value]⟩

theorem cat_takes {first : List UInt8} {rest : Evbuffer} (cat : d.cmd.action.toNat = 7)
    (names : d.interfaces.head?.bind (ifaceOf st) = some iface) (live : st.ifaces.get iface = some self)
    (alone : self.partner = none) (room : memory.cat.evbuffer = true) (queue : self.pending = frame first ++ rest)
    (framed : Framed first) (allocated : memory.cat.malloc self.pending.length first.length = true)
    {after : Daemon Table} {reply : RtemgrData}
    (acted : ctlAction tbl lib memory st (d.withError (-1)) data = .ok (after, reply)) :
    (after.ifaces.get iface).map Interface.pending ≠ some self.pending := by
  obtain ⟨whole, left, text, loop, rfl, -⟩ := (ctlAction_loop cat names live alone room).mp acted
  have shorter : left.length < self.pending.length := by
    rw [queue] at loop ⊢
    exact catLoop_takes framed (by rw [← queue]; exact allocated) loop
  rw [Heap.get_modify_self, live]
  intro same
  have sameQueue : left = self.pending := Option.some.inj same
  rw [sameQueue] at shorter
  exact Nat.lt_irrefl _ shorter

/-- A message is lost exactly when one is taken off the queue and then an
allocation fails, a message cannot be shown whole or the reply cannot be sent. -/
theorem cat_keeps_iff (received : receivePacket lib memory.packet data = .ok (some d)) (cat : d.cmd.action.toNat = 7)
    (names : d.interfaces.head?.bind (ifaceOf st) = some iface) (live : st.ifaces.get iface = some self)
    (alone : self.partner = none) (framed : ∀ msg ∈ waiting, Framed msg) (queue : self.pending = waiting.flatMap frame)
    (object : ∀ text, catLines memory.cat self.busType (self.pending.length + 1) (waiting.map sized) = .ok text →
      text.length < 18446744073709551616) :
    CatKeeps tbl lib memory st d data iface self waiting ↔ CatSafe lib memory st d self waiting := by
  have enough : waiting.length < self.pending.length + 1 := by
    rw [queue]
    exact Nat.lt_succ_of_le (frames_length waiting)
  have through {left text : Evbuffer} :
      catLoop memory.cat self.busType (self.pending.length + 1) self.pending [] = .ok (true, left, text) ↔
        memory.cat.Allocates (self.pending.length + 1) waiting ∧ left = [] ∧
          catLines memory.cat self.busType (self.pending.length + 1) (waiting.map sized) = .ok text := by
    have whole := @catLoop_whole_iff memory.cat self.busType waiting framed _ enough [] left text
    rw [← queue] at whole
    simp only [whole, List.nil_append, exists_eq_right']
  cases room : memory.cat.evbuffer with
  | false =>
      refine iff_of_true ⟨st, (d.withError (-1)).withError (-1), ?_, .inr (by rw [live, Option.map_some])⟩ ?_
      · have sameAction : (d.withError (-1)).cmd.action.toNat = 7 := cat
        have sameNames : (d.withError (-1)).interfaces.head?.bind (ifaceOf st) = some iface := names
        rw [ctlAction_cat sameAction, doRtecmdCat_full sameNames live alone room]
        rfl
      · intro first _ found
        cases room.symm.trans found
  | true =>
      have unchanged {whole : Bool} {text : Evbuffer} (loop : catLoop memory.cat self.busType (self.pending.length + 1)
          self.pending [] = .ok (whole, self.pending, text)) :
          CatKeeps tbl lib memory st d data iface self waiting := by
        refine ⟨_, _, (ctlAction_loop cat names live alone room).mpr ⟨_, _, _, loop, rfl, rfl⟩, .inr ?_⟩
        rw [Heap.get_modify_self, live]
        rfl
      cases waiting with
      | nil =>
          have loop : catLoop memory.cat self.busType (self.pending.length + 1) self.pending [] =
              .ok (true, self.pending, []) := by
            rw [queue]
            rfl
          exact iff_of_true (unchanged loop) fun first member => by cases member
      | cons first rest =>
          have one := framed first List.mem_cons_self
          have split : self.pending = frame first ++ rest.flatMap frame := queue
          cases allocated : memory.cat.malloc self.pending.length first.length with
          | false =>
              have refused := drain_refused one allocated (rest.flatMap frame)
              rw [← split] at refused
              have loop : catLoop memory.cat self.busType (self.pending.length + 1) self.pending [] =
                  .ok (false, self.pending, []) := by
                rw [catLoop, refused]
              refine iff_of_true (unchanged loop) ?_
              rintro _ ⟨⟩ - found
              cases allocated.symm.trans found
          | true =>
              constructor
              · rintro ⟨after, reply, acted, kept⟩
                obtain ⟨noError, shows, next, document, sent, written⟩ :=
                  kept.resolve_right (cat_takes cat names live alone room split one allocated acted)
                rw [processCtlport_acted received acted] at sent
                obtain ⟨left, text, loop, rfl, value, rfl⟩ :=
                  ctlAction_shows cat names live alone room acted noError shows
                obtain ⟨allocates, -, lines⟩ := through.mp loop
                rw [catReply_payload (object text lines)] at shows
                obtain ⟨-, sends⟩ := sendReply_sent_iff.mp ⟨next, document, sent, written⟩
                intro _ _ _ _
                exact ⟨allocates, shows_legible _ lines shows, text, lines, value, sends⟩
              · intro safe
                obtain ⟨allocates, legible, text, lines, value, sends⟩ := safe first rfl room allocated
                obtain ⟨_, again, shows⟩ := catLines_legible legible enough.le
                cases lines.symm.trans again
                have answer := catValue_answer (d := d) (shows_nonempty shows) value
                have acted : ctlAction tbl lib memory st (d.withError (-1)) data = .ok (_, catReply d text) :=
                  (ctlAction_loop cat names live alone room).mpr
                    ⟨true, [], text, through.mpr ⟨allocates, rfl, lines⟩, rfl, answer.symm⟩
                have replied : ∃ next document,
                    processCtlport tbl lib memory st data = .ok (next, some (document, 0)) ∧
                      document = lib.write (rtemgrDataEmit lib.encode (catReply d text)) := by
                  rw [processCtlport_acted received acted]
                  exact sendReply_sent_iff.mpr ⟨fun null => Option.some_ne_none _ null.1, sends⟩
                rw [← catReply_payload (d := d) (object text lines)] at shows
                exact ⟨_, _, acted, .inl ⟨rfl, shows, replied⟩⟩

end Command

/-! ## Two queues -/

def waitingInterface (msg : List UInt8) : Interface :=
  { freshInterface 0 with name := ascii "a", busType := EpType.spi.number, pending := frame msg }

/-- A daemon with its control loop and an SPI interface at which a message has arrived. -/
def waitingDaemon (msg : List UInt8) : Daemon (Dtbl EpPtr) where
  lib := Daemon.started.lib
  ifaces := Heap.empty.alloc (waitingInterface msg)
  domainList := [⟨0, [0]⟩]
  ctrlIface := none

def catPacket : RtemgrData := namedPacket 7 ["a"]

theorem waitingDaemon_names (msg : List UInt8) :
    (catPacket.interfaces.map storedIntf).head?.bind (ifaceOf (waitingDaemon msg)) = some 0 := rfl

theorem hexLine_length (msg : List UInt8) :
    (msg.flatMap fun byte => 32 :: printHexByte byte).length = 5 * msg.length := by
  induction msg with
  | nil => rfl
  | cons byte rest ih =>
      have five : (32 :: printHexByte byte).length = 5 := rfl
      rw [List.flatMap_cons, List.length_append, five, ih, List.length_cons]
      omega

/-- One byte waits. -/
theorem cat_keeps_iff_byte : ∃ d, receivePacket (.receiving catPacket) .succeeds [] = .ok (some d) ∧
    (CatKeeps dtblTable (.receiving catPacket) .succeeds (waitingDaemon [7]) d [] 0 (waitingInterface [7]) [[7]] ↔
      CatSafe (.receiving catPacket) .succeeds (waitingDaemon [7]) d (waitingInterface [7]) [[7]]) := by
  obtain ⟨d, received, action, interfaces, -⟩ := receivePacket_emit catPacket [] (by decide) (by decide)
  have cat : d.cmd.action.toNat = 7 := congrArg BitVec.toNat action
  have names := waitingDaemon_names [7]
  rw [← interfaces] at names
  have framed : ∀ msg ∈ [[(7 : UInt8)]], Framed msg := by
    intro msg member
    rw [List.mem_singleton.mp member]
    exact ⟨nofun, by decide⟩
  refine ⟨d, received, cat_keeps_iff received cat names rfl rfl framed rfl ?_⟩
  intro text lines
  cases lines
  decide

/-- A thousand bytes wait, and the reply with their texts does not fit. -/
theorem cat_loses : ¬ ∀ msg d, Framed msg →
    receivePacket (.receiving catPacket) .succeeds [] = .ok (some d) →
      CatKeeps dtblTable (.receiving catPacket) .succeeds (waitingDaemon msg) d [] 0 (waitingInterface msg) [msg] := by
  intro keeps
  obtain ⟨d, received, action, interfaces, -⟩ := receivePacket_emit catPacket [] (by decide) (by decide)
  have cat : d.cmd.action.toNat = 7 := congrArg BitVec.toNat action
  have names := waitingDaemon_names (List.replicate 1000 7)
  rw [← interfaces] at names
  have size : (List.replicate 1000 (7 : UInt8)).length = 1000 := List.length_replicate
  have framed : Framed (List.replicate 1000 7) := ⟨List.ne_nil_of_length_pos (by omega), by omega⟩
  obtain ⟨after, reply, acted, kept⟩ := keeps (List.replicate 1000 7) d framed received
  have queue : (waitingInterface (List.replicate 1000 7)).pending = frame (List.replicate 1000 7) ++ [] :=
    (List.append_nil _).symm
  obtain ⟨-, shows, next, document, sent, written⟩ :=
    kept.resolve_right (cat_takes cat names rfl rfl rfl queue framed rfl acted)
  rw [processCtlport_acted received acted] at sent
  obtain ⟨-, -, fits, -⟩ := sendReply_sent_iff.mp ⟨next, document, sent, written⟩
  change ((PacketLib.receiving catPacket).write (rtemgrDataEmit Base64.encode reply)).length ≤ 4096 at fits
  have scalars := scalarsLength_written catPacket (rtemgrDataEmit Base64.encode reply)
  rw [scalarsLength_emit, cString_eq_self (Base64.nul_not_mem_encode _), Base64.encode_length] at scalars
  have texts : 5000 ≤ reply.cmd.val.payload.length := by
    obtain ⟨lines, each, payload⟩ := shows
    rw [payload]
    cases each with
    | cons shown rest =>
        cases rest
        simp only [ShowsMessage, waitingInterface, or_true, if_true] at shown
        rw [shown, List.flatten_singleton, List.length_append, List.length_append, hexLine_length, size]
        omega
  omega

end Rteipc
