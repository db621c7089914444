import Rteipc.Data.Base64
import Rteipc.Packet.Document
import Rteipc.Packet.Emit

namespace Rteipc

/-! When the parser stays inside its arrays. -/

/-! ## Event sequences of libyaml -/

/-- A construct that has been opened. -/
inductive YamlFrame where
  | stream
  | document (rooted : Bool)
  | sequence
  | mapping (valueDue : Bool)
deriving DecidableEq, Repr

/-- The construct after one more node in it, where one may stand. -/
def YamlFrame.node : YamlFrame → Option YamlFrame
  | .stream | .document true => none
  | .document false => some (.document true)
  | .sequence => some .sequence
  | .mapping valueDue => some (.mapping !valueDue)

def YamlFrame.event : List YamlFrame → YamlEvent → Option (List YamlFrame)
  | [], .streamStart => some [.stream]
  | [.stream], .streamEnd => some []
  | [.stream], .documentStart => some [.document false, .stream]
  | .document true :: above, .documentEnd => some above
  | .sequence :: above, .sequenceEnd => some above
  | .mapping false :: above, .mappingEnd => some above
  | frame :: above, .scalar _ | frame :: above, .alias => frame.node.map (· :: above)
  | frame :: above, .sequenceStart => frame.node.map fun frame => .sequence :: frame :: above
  | frame :: above, .mappingStart => frame.node.map fun frame => .mapping false :: frame :: above
  | _, _ => none

/-- Constructs are closed in the order they were opened. The sequence may stop
anywhere, where the text goes wrong. -/
def libyamlDelivers (frames : List YamlFrame) : List YamlEvent → Bool
  | [] => true
  | event :: rest =>
      match YamlFrame.event frames event with
      | none => false
      | some frames => libyamlDelivers frames rest

/-! ## The interface array -/

/-- More interfaces have been declared than mappings under `interfaces` have ended. -/
def Covered (past : List Directive) : Prop :=
  ∃ count ∈ values .nrIntf past, (closedInterfaces past : Int) < declaredCount count

/-- Whenever a document gives a value for a member of an interface, an earlier
`nr_intf` covers the interface. -/
def IndexSafe (past later : List Directive) : Prop :=
  ∀ before item value after, later = before ++ .assign item value :: after → item.field = .intf →
    Covered (past ++ before)

variable {alloc : ParseAlloc} {past later : List Directive} {directive : Directive}
  {state next : ParseState} {event : YamlEvent}

theorem Follows.covered_iff (follows : Follows alloc past state) :
    Covered past ↔ state.intf = true ∧ state.idxIntf < state.d.interfaces.length := by
  have declares := follows.interfaces
  rw [Covered, ← follows.index]
  refine ⟨fun covered => ?_, fun inside => ?_⟩
  · obtain ⟨count, member, below⟩ := covered
    have room := declares.room count member
    have inside : state.idxIntf < state.d.interfaces.length := by omega
    exact ⟨declares.assigned.resolve_left (by omega), inside⟩
  · obtain ⟨count, member, equal⟩ := declares.reached.resolve_left (by omega)
    exact ⟨count, member, by omega⟩

theorem indexSafe_nil : IndexSafe past [] := by
  intro before item value after split
  exact absurd split.symm (List.append_ne_nil_of_right_ne_nil _ (List.cons_ne_nil _ _))

theorem indexSafe_cons :
    IndexSafe past (directive :: later) ↔
      (∀ item value, directive = .assign item value → item.field = .intf → Covered past) ∧
        IndexSafe (past ++ [directive]) later := by
  refine ⟨fun safe => ⟨?_, ?_⟩, fun safe => ?_⟩
  · intro item value same member
    have covered := safe [] item value later (by rw [same]; rfl) member
    rwa [List.append_nil] at covered
  · intro before item value after split member
    have covered := safe (directive :: before) item value after (by rw [split]; rfl) member
    rwa [List.append_assoc]
  · intro before item value after split member
    cases before with
    | nil =>
        rw [List.append_nil]
        exact safe.1 item value (List.cons.inj split).1 member
    | cons first before =>
        obtain ⟨rfl, rest⟩ := List.cons.inj split
        have covered := safe.2 before item value after rest member
        rwa [List.append_assoc] at covered

theorem storeIntf_error {set : RtemgrIntf → RtemgrIntf} {stop : ParseStop}
    (failed : storeIntf state set = .error stop) :
    stop = .outOfBounds ∧ ¬ (state.intf = true ∧ state.idxIntf < state.d.interfaces.length) := by
  unfold storeIntf at failed
  split at failed
  next => nomatch failed
  next outside => exact ⟨(Except.error.inj failed).symm, outside⟩

theorem storeNrIntf_error {value : List UInt8} {stop : ParseStop}
    (failed : storeNrIntf alloc state value = .error stop) :
    stop = .error ∧ ∃ count, growInterfaces alloc.realloc state.d count = none := by
  simp only [storeNrIntf] at failed
  split at failed
  next noMemory => exact ⟨(Except.error.inj failed).symm, _, noMemory⟩
  next => cases failed

theorem storeItem_error {value : List UInt8} {stop : ParseStop}
    (here : state.cursor.item.field = state.cursor.field)
    (failed : storeItem alloc state value = .error stop) :
    (stop = .error ∧ ∃ count, growInterfaces alloc.realloc state.d count = none) ∨
      stop = .outOfBounds ∧ state.cursor.item.field = .intf ∧
        ¬ (state.intf = true ∧ state.idxIntf < state.d.interfaces.length) := by
  by_cases field : state.cursor.field = .intf
  · rw [storeItem_store field (here.trans field)] at failed
    obtain ⟨stopped, outside⟩ := storeIntf_error failed
    exact .inr ⟨stopped, here.trans field, outside⟩
  · unfold storeItem at failed
    rw [← here] at failed field
    cases given : state.cursor.item <;> rw [given] at failed field
    case nrIntf => exact .inl (storeNrIntf_error failed)
    case itemNone | valV | valS | cmdAct | cmdErr | extAddr | extRsize => nomatch failed
    all_goals exact (field rfl).elim

theorem growInterfaces_succeeds (d : RtemgrData) (count : Nat) :
    growInterfaces ParseAlloc.succeeds.realloc d count ≠ none := by
  change growInterfaces (fun _ => true) d count ≠ none
  rw [growInterfaces_all]
  nofun

theorem parseEvent_error {stop : ParseStop} (failed : parseEvent alloc state event = .error stop) :
    (stop = .error ∧ ∃ count, growInterfaces alloc.realloc state.d count = none) ∨
      stop = .outOfBounds ∧
        (∃ item value, state.cursor.directive event = some (.assign item value) ∧ item.field = .intf) ∧
          ¬ (state.intf = true ∧ state.idxIntf < state.d.interfaces.length) := by
  cases event
  case scalar text =>
    rw [parseEvent, parseScalar] at failed
    split at failed
    next => cases failed
    next present =>
      split at failed
      next stopped refused =>
        obtain rfl := Except.error.inj failed
        by_cases here : state.cursor.item.field = state.cursor.field
        · obtain noMemory | ⟨outside, member, reason⟩ := storeItem_error here refused
          · exact .inl noMemory
          · refine .inr ⟨outside, ⟨state.cursor.item, cString text, ?_, member⟩, reason⟩
            rw [ParseCursor.directive, if_pos ⟨present, here⟩]
        · rw [storeItem_elsewhere here] at refused
          cases refused
      next => cases failed
  all_goals cases failed

/-- A value for a member of an interface that has no room is an access outside the array. -/
theorem parseEvent_outOfBounds {item : Item} {value : List UInt8}
    (asks : state.cursor.directive event = some (.assign item value)) (member : item.field = .intf)
    (outside : ¬ (state.intf = true ∧ state.idxIntf < state.d.interfaces.length)) :
    parseEvent alloc state event = .error .outOfBounds := by
  cases event
  case scalar text =>
    rw [ParseCursor.directive] at asks
    split at asks
    next given =>
      obtain ⟨rfl, rfl⟩ := Directive.assign.inj (Option.some.inj asks)
      rw [parseEvent, parseScalar, if_neg given.1, storeItem_store (given.2.symm.trans member) member, storeIntf,
        if_neg outside]
    next => cases asks
  case mappingEnd =>
    rw [ParseCursor.directive] at asks
    split at asks
    next => cases asks
    next => cases asks
  all_goals cases asks

theorem indexSafe_toList (asked : Option Directive) :
    IndexSafe past (asked.toList ++ later) ↔
      (∀ item value, asked = some (.assign item value) → item.field = .intf → Covered past) ∧
        IndexSafe (past ++ asked.toList) later := by
  cases asked with
  | none =>
      rw [Option.toList_none, List.nil_append, List.append_nil]
      exact ⟨fun safe => ⟨nofun, safe⟩, fun safe => safe.2⟩
  | some directive =>
      rw [Option.toList_some, List.singleton_append, indexSafe_cons]
      simp only [Option.some.injEq]

/-- A document whose values are covered never leads outside the array, whatever
allocations fail. -/
theorem Follows.inBounds {events : List YamlEvent} (follows : Follows alloc past state)
    (safe : IndexSafe past (directivesFrom state.cursor events)) :
    parseEvents alloc state events ≠ .error .outOfBounds := by
  induction events generalizing state past with
  | nil => simp [parseEvents]
  | cons event rest ih =>
      intro outOfBounds
      rw [parseEvents] at outOfBounds
      by_cases ended : event = .streamEnd
      · subst ended
        cases outOfBounds
      · rw [directivesFrom, if_neg ended, indexSafe_toList] at safe
        split at outOfBounds
        next stop failed =>
          obtain rfl := Except.error.inj outOfBounds
          obtain ⟨noMemory, -⟩ | ⟨-, ⟨item, value, asks, member⟩, outside⟩ := parseEvent_error failed
          · cases noMemory
          · exact outside (follows.covered_iff.mp (safe.1 item value asks member))
        next next stepped =>
          obtain ⟨after, cursor⟩ := follows.afterEvent stepped
          rw [if_neg ended] at outOfBounds
          exact ih after (cursor ▸ safe.2) outOfBounds

/-- Conversely, when allocations succeed. -/
theorem Follows.indexSafe {events : List YamlEvent} (follows : Follows .succeeds past state)
    (inBounds : parseEvents .succeeds state events ≠ .error .outOfBounds) :
    IndexSafe past (directivesFrom state.cursor events) := by
  induction events generalizing state past with
  | nil => exact indexSafe_nil
  | cons event rest ih =>
      rw [directivesFrom]
      split
      next => exact indexSafe_nil
      next running =>
        rw [parseEvents] at inBounds
        rw [indexSafe_toList]
        cases stepped : parseEvent .succeeds state event with
        | error stop =>
            rw [stepped] at inBounds
            obtain ⟨-, count, noMemory⟩ | ⟨rfl, -⟩ := parseEvent_error stepped
            · exact (growInterfaces_succeeds state.d count noMemory).elim
            · exact (inBounds rfl).elim
        | ok next =>
            obtain ⟨after, cursor⟩ := follows.afterEvent stepped
            simp only [stepped, if_neg running] at inBounds
            refine ⟨?_, cursor ▸ ih after inBounds⟩
            intro item value asks member
            apply follows.covered_iff.mpr
            by_contra outside
            rw [parseEvent_outOfBounds asks member outside] at stepped
            cases stepped

/-- The parser stays inside the interface array, whichever allocations fail,
exactly on the documents that declare every interface before they describe it. -/
theorem packet_index_safe_iff (decode : List UInt8 → List UInt8) (events : List YamlEvent) :
    (∀ alloc, rtemgrDataParse decode alloc events ≠ .outOfBounds) ↔ IndexSafe [] (directives events) := by
  have outside : ∀ alloc, rtemgrDataParse decode alloc events = .outOfBounds ↔
      parseEvents alloc .start events = .error .outOfBounds := by
    intro alloc
    rw [rtemgrDataParse]
    split
    next stopped => simp only [stopped]
    next stopped =>
      rw [stopped]
      simp
    next stopped =>
      simp only [stopped, reduceCtorEq, iff_false]
      split <;> simp
  refine ⟨fun inBounds => ?_, fun safe alloc => ?_⟩
  · exact (follows_start .succeeds).indexSafe fun stopped => inBounds .succeeds ((outside .succeeds).mpr stopped)
  · exact fun stopped => (follows_start alloc).inBounds safe ((outside alloc).mp stopped)

/-- A document that describes an interface and never declares one. -/
theorem packet_index_unassigned :
    ¬ ∀ (decode : List UInt8 → List UInt8) (alloc : ParseAlloc) (events : List YamlEvent),
      libyamlDelivers [] events = true → rtemgrDataParse decode alloc events ≠ .outOfBounds := by
  intro all
  exact all id .succeeds
    [ .streamStart, .documentStart, .mappingStart,
      .key "interfaces", .sequenceStart, .mappingStart,
      .key "id", .scalar (ascii "1"),
      .mappingEnd, .sequenceEnd, .mappingEnd, .documentEnd, .streamEnd ]
    (by decide) (by decide)

/-! ## The payload buffer -/

/-- No byte is written past the buffer of `s` bytes and none in it is left unwritten. -/
def ParsedPacket.Filled (parsed : ParsedPacket) : Prop :=
  parsed.produced ≤ parsed.d.cmd.val.s.toNat ∧ ∀ i < parsed.d.cmd.val.s.toNat, i < parsed.produced

/-- The size the document gives is that of the data it gives. -/
def PayloadSized (alloc : ParseAlloc) (events : List YamlEvent) : Prop :=
  let size := sizeGiven (values .valS (directives events))
  size = 0 ∨ ∃ text, textGiven alloc (values .valV (directives events)) = some text ∧
    3 * Data.Base64.count text / 4 = size.toNat

theorem filled_iff {parsed : ParsedPacket} : parsed.Filled ↔ parsed.produced = parsed.d.cmd.val.s.toNat := by
  refine ⟨fun filled => ?_, fun exact' => ⟨Nat.le_of_eq exact', fun i below => exact' ▸ below⟩⟩
  apply Nat.le_antisymm filled.1
  by_contra short
  exact Nat.lt_irrefl _ (filled.2 parsed.produced (by omega))

theorem rtemgrDataParse_packet {decode : List UInt8 → List UInt8} {events : List YamlEvent}
    {parsed : ParsedPacket} (accepted : rtemgrDataParse decode alloc events = .packet parsed) :
    ∃ state, parseEvents alloc .start events = .ok state ∧ decodePayload decode alloc state.d = some parsed := by
  rw [rtemgrDataParse] at accepted
  split at accepted
  next => cases accepted
  next => cases accepted
  next state ended =>
    split at accepted
    next => cases accepted
    next decoded =>
      obtain rfl := ParseResult.packet.inj accepted
      exact ⟨state, ended, decoded⟩

/-- The decoder fills the buffer exactly when the size under `s` is that of the
data under `v`. -/
theorem payload_fills_buffer_iff (decode : List UInt8 → List UInt8) (alloc : ParseAlloc)
    (events : List YamlEvent) (parsed : ParsedPacket)
    (decodedLength : ∀ text, (decode text).length = 3 * Data.Base64.count text / 4)
    (accepted : rtemgrDataParse decode alloc events = .packet parsed) :
    parsed.Filled ↔ PayloadSized alloc events := by
  obtain ⟨state, ended, decoded⟩ := rtemgrDataParse_packet accepted
  have follows := (follows_start alloc).afterEvents ended
  have size : state.d.cmd.val.s = sizeGiven (values .valS (directives events)) := follows.size
  have text : state.d.cmd.val.v = textGiven alloc (values .valV (directives events)) := follows.text
  rw [filled_iff, PayloadSized, ← size, ← text]
  by_cases empty : state.d.cmd.val.s = 0
  · rw [decodePayload_empty empty] at decoded
    obtain rfl := Option.some.inj decoded
    simp only [empty, true_or, iff_true]
    rfl
  · have positive : state.d.cmd.val.s.toNat ≠ 0 := fun zero => empty (BitVec.eq_of_toNat_eq zero)
    cases given : state.d.cmd.val.v with
    | none =>
        rw [decodePayload_null given] at decoded
        obtain rfl := Option.some.inj decoded
        simp only [empty, reduceCtorEq, false_and, exists_false, or_false, iff_false]
        omega
    | some bytes =>
        cases room : alloc.payload with
        | false =>
            simp only [decodePayload, given, room] at decoded
            rw [if_neg empty] at decoded
            cases decoded
        | true =>
            rw [decodePayload_text given empty room] at decoded
            obtain rfl := Option.some.inj decoded
            simp only [empty, false_or, Option.some.injEq, exists_eq_left', decodedLength]

/-- Three bytes of payload and the size 3, given in either order. -/
theorem payload_fills_buffer_three :
    let events : List YamlEvent :=
      [ .streamStart, .documentStart, .mappingStart, .key "cmd", .sequenceStart, .mappingStart,
        .key "val", .sequenceStart, .mappingStart, .key "s", .scalar (ascii "3"),
        .key "v", .scalar (ascii "AQID"), .mappingEnd, .sequenceEnd, .mappingEnd, .sequenceEnd,
        .mappingEnd, .documentEnd, .streamEnd ]
    let parsed : ParsedPacket := ⟨⟨⟨0, 0, ⟨some [1, 2, 3], 3, ⟨0, 0⟩⟩⟩, []⟩, 3⟩
    parsed.Filled ↔ PayloadSized .succeeds events :=
  payload_fills_buffer_iff Data.Base64.decode .succeeds _ _ Data.Base64.decode_length (by decide)

/-- Four characters of data and the size 1: three bytes go into a buffer of one. -/
theorem payload_overruns_buffer :
    ¬ ∀ (decode : List UInt8 → List UInt8) (alloc : ParseAlloc) (events : List YamlEvent) (parsed : ParsedPacket),
      (∀ text, (decode text).length = 3 * Data.Base64.count text / 4) →
      libyamlDelivers [] events = true → rtemgrDataParse decode alloc events = .packet parsed →
      parsed.Filled := by
  intro all
  have filled := all Data.Base64.decode .succeeds
    [ .streamStart, .documentStart, .mappingStart, .key "cmd", .sequenceStart, .mappingStart,
      .key "val", .sequenceStart, .mappingStart, .key "v", .scalar (ascii "AQID"),
      .key "s", .scalar (ascii "1"), .mappingEnd, .sequenceEnd, .mappingEnd, .sequenceEnd,
      .mappingEnd, .documentEnd, .streamEnd ]
    ⟨⟨⟨0, 0, ⟨some [1, 2, 3], 1, ⟨0, 0⟩⟩⟩, []⟩, 3⟩ Data.Base64.decode_length (by decide) (by decide)
  exact absurd filled.1 (by decide)

end Rteipc
