import Rteipc.Packet.Bounds

namespace Rteipc

/-! The `char` arrays of a parsed interface: what they hold after the values of
the document, and when they hold a NUL. -/

/-- The arrays of an interface that are filled with `strncpy`. -/
inductive TextMember where
  | name
  | path
  | partner
deriving DecidableEq, Repr

def TextMember.size : TextMember → Nat
  | .name | .partner => 16
  | .path => 128

def TextMember.item : TextMember → Item
  | .name => .intfName
  | .path => .intfPath
  | .partner => .intfPartner

def TextMember.array : (member : TextMember) → RtemgrIntf → CharArray member.size
  | .name, intf => intf.name
  | .path, intf => intf.path
  | .partner, intf => intf.partner

/-- The values given for an item of one interface, oldest first. Interfaces are
counted by the mappings that end. -/
def memberValues (item : Item) : Nat → List Directive → List (List UInt8)
  | _, [] => []
  | 0, .closeInterface :: _ => []
  | index + 1, .closeInterface :: rest => memberValues item index rest
  | 0, .assign given value :: rest =>
      ((Directive.assign given value).valueFor item).toList ++ memberValues item 0 rest
  | index + 1, .assign _ _ :: rest => memberValues item (index + 1) rest

def textArray (size : Nat) (given : List (List UInt8)) : CharArray size :=
  match given.getLast? with
  | none => .zeroed size
  | some value => strncpy size value

variable {alloc : ParseAlloc} {past : List Directive} {directive : Directive} {state next : ParseState}
  {event : YamlEvent} {item : Item} {value : List UInt8} {index : Nat} {member : TextMember} {intf : RtemgrIntf}

theorem memberValues_snoc : memberValues item index (past ++ [directive]) =
    memberValues item index past ++ if closedInterfaces past = index then (directive.valueFor item).toList else [] := by
  induction past generalizing index with
  | nil => cases index <;> cases directive <;> simp [memberValues, closedInterfaces, Directive.valueFor]
  | cons first rest ih =>
      rw [List.cons_append]
      cases first with
      | closeInterface =>
          have closed : closedInterfaces (.closeInterface :: rest) = closedInterfaces rest + 1 := List.count_cons_self
          cases index with
          | zero => simp [memberValues, closed]
          | succ index => simp only [memberValues, ih, closed, Nat.succ_inj]
      | assign given value =>
          have other : Directive.assign given value ≠ .closeInterface := by simp
          have closed : closedInterfaces (.assign given value :: rest) = closedInterfaces rest :=
            List.count_cons_of_ne other
          cases index with
          | zero => simp only [memberValues, ih, closed, List.append_assoc]
          | succ index => simp only [memberValues, ih, closed]

theorem store_array : member.array (item.store value intf) =
    if item = member.item then strncpy member.size value else member.array intf := by
  cases member <;> cases item <;> rfl

theorem textArray_snoc (size : Nat) (given : List (List UInt8)) (value : List UInt8) :
    textArray size (given ++ [value]) = strncpy size value := by
  rw [textArray, List.getLast?_concat]

/-- The arrays hold the last values given for them, and none were given for
interfaces there is no room for. -/
structure TextsFollow (past : List Directive) (state : ParseState) : Prop where
  given : ∀ member index intf, state.d.interfaces[index]? = some intf →
    TextMember.array member intf = textArray member.size (memberValues member.item index past)
  beyond : ∀ item index, Item.field item = .intf → state.d.interfaces.length ≤ index → memberValues item index past = []

theorem memberValues_other (other : directive.valueFor item = none) :
    memberValues item index (past ++ [directive]) = memberValues item index past := by
  rw [memberValues_snoc, other, Option.toList_none, ite_self, List.append_nil]

theorem memberValues_elsewhere (elsewhere : closedInterfaces past ≠ index) :
    memberValues item index (past ++ [directive]) = memberValues item index past := by
  rw [memberValues_snoc, if_neg elsewhere, List.append_nil]

theorem textsFollow_start : TextsFollow [] .start where
  given _ _ _ found := nomatch found
  beyond _ index _ _ := by cases index <;> rfl

theorem TextsFollow.congr (follows : TextsFollow past state) (same : next.d.interfaces = state.d.interfaces) :
    TextsFollow past next := by
  refine ⟨?_, ?_⟩
  · rw [same]
    exact follows.given
  · rw [same]
    exact follows.beyond

theorem TextsFollow.other (follows : TextsFollow past state)
    (other : ∀ item, item.field = .intf → directive.valueFor item = none) :
    TextsFollow (past ++ [directive]) state where
  given member index intf found := by
    have isMember : member.item.field = .intf := by cases member <;> rfl
    rw [memberValues_other (other _ isMember)]
    exact follows.given member index intf found
  beyond item index isMember above := by
    rw [memberValues_other (other item isMember)]
    exact follows.beyond item index isMember above

theorem TextsFollow.nrIntf (follows : TextsFollow past state) (stored : storeNrIntf alloc state value = .ok next) :
    TextsFollow past next := by
  simp only [storeNrIntf] at stored
  split at stored
  next => cases stored
  next d grown =>
    cases stored
    cases growInterfaces_eq grown
    refine ⟨fun member index intf found => ?_, fun item index isMember above => ?_⟩
    · by_cases old : index < state.d.interfaces.length
      · rw [List.getElem?_append_left old] at found
        exact follows.given member index intf found
      · rw [List.getElem?_append_right (Nat.not_lt.mp old)] at found
        have isMember : member.item.field = .intf := by cases member <;> rfl
        rw [List.eq_of_mem_replicate (List.mem_of_getElem? found),
          follows.beyond member.item index isMember (Nat.not_lt.mp old)]
        cases member <;> rfl
    · rw [List.length_append] at above
      exact follows.beyond item index isMember (by omega)

theorem TextsFollow.store (follows : TextsFollow past state) (here : state.idxIntf = closedInterfaces past)
    (stored : storeIntf state (item.store value) = .ok next) :
    TextsFollow (past ++ [.assign item value]) next := by
  unfold storeIntf at stored
  split at stored
  next inside =>
    cases stored
    have room := inside.2
    rw [here] at room
    refine ⟨fun member index intf found => ?_, fun other index isMember above => ?_⟩
    · rw [here, List.getElem?_modify] at found
      obtain ⟨old, before, changed⟩ := Option.map_eq_some_iff.mp found
      by_cases same : closedInterfaces past = index
      · rw [if_pos same] at changed
        rw [← changed, store_array, memberValues_snoc, if_pos same]
        by_cases isMember : item = member.item
        · rw [if_pos isMember, Directive.valueFor, if_pos isMember, Option.toList_some, textArray_snoc]
        · rw [if_neg isMember, Directive.valueFor, if_neg isMember, Option.toList_none, List.append_nil]
          exact follows.given member index old before
      · rw [if_neg same] at changed
        rw [← changed, memberValues_elsewhere same]
        exact follows.given member index old before
    · rw [List.length_modify] at above
      rw [memberValues_elsewhere (by omega)]
      exact follows.beyond other index isMember above
  next => nomatch stored

/-! ## Events -/

theorem TextsFollow.afterItem (texts : TextsFollow past state) (follows : Follows alloc past state)
    (present : state.cursor.item ≠ .itemNone) (here : state.cursor.item.field = state.cursor.field)
    (stored : storeItem alloc state value = .ok next) :
    TextsFollow (past ++ [.assign state.cursor.item value]) next := by
  by_cases field : state.cursor.field = .intf
  · rw [field] at here
    rw [storeItem_store field here] at stored
    exact texts.store follows.index stored
  · have other : ∀ item, item.field = .intf → (Directive.assign state.cursor.item value).valueFor item = none := by
      intro item isMember
      refine if_neg fun same => field ?_
      rw [← here, same, isMember]
    unfold storeItem at stored
    rw [← here] at stored field
    cases given : state.cursor.item <;> rw [given] at stored field present other
    case itemNone => exact (present rfl).elim
    case nrIntf => exact (texts.nrIntf stored).other other
    case valV | valS | cmdAct | cmdErr | extAddr | extRsize =>
      cases stored
      exact (texts.other other).congr rfl
    all_goals exact (field rfl).elim

theorem TextsFollow.afterEvent (texts : TextsFollow past state) (follows : Follows alloc past state)
    (parsed : parseEvent alloc state event = .ok next) :
    TextsFollow (past ++ (state.cursor.directive event).toList) next := by
  cases event
  case mappingEnd =>
    cases parsed
    rw [ParseCursor.directive]
    split
    next => exact (texts.other fun _ _ => rfl).congr rfl
    next =>
      rw [Option.toList_none, List.append_nil]
      exact texts
  case scalar text =>
    rw [parseEvent, parseScalar] at parsed
    by_cases present : state.cursor.item = .itemNone
    · rw [if_pos present] at parsed
      cases parsed
      rw [ParseCursor.directive, if_neg fun given => given.1 present, Option.toList_none, List.append_nil]
      exact texts.congr rfl
    · rw [if_neg present] at parsed
      split at parsed
      next => cases parsed
      next middle stored =>
        cases parsed
        by_cases here : state.cursor.item.field = state.cursor.field
        · rw [ParseCursor.directive, if_pos ⟨present, here⟩]
          exact (texts.afterItem follows present here stored).congr rfl
        · rw [storeItem_elsewhere here] at stored
          cases stored
          rw [ParseCursor.directive, if_neg fun given => here given.2, Option.toList_none, List.append_nil]
          exact texts.congr rfl
  all_goals
    cases parsed
    rw [ParseCursor.directive, Option.toList_none, List.append_nil]
    exact texts.congr rfl
    all_goals simp

theorem TextsFollow.afterEvents {events : List YamlEvent} {last : ParseState} (texts : TextsFollow past state)
    (follows : Follows alloc past state) (parsed : parseEvents alloc state events = .ok last) :
    TextsFollow (past ++ directivesFrom state.cursor events) last := by
  induction events generalizing state past with
  | nil => cases parsed
  | cons event rest ih =>
      rw [parseEvents] at parsed
      split at parsed
      next => cases parsed
      next next stepped =>
        obtain ⟨after, cursor⟩ := follows.afterEvent stepped
        have afterTexts := texts.afterEvent follows stepped
        rw [directivesFrom]
        by_cases ended : event = .streamEnd
        · rw [if_pos ended] at parsed ⊢
          cases parsed
          subst ended
          exact afterTexts
        · rw [if_neg ended] at parsed ⊢
          rw [← List.append_assoc, ← cursor]
          exact ih afterTexts after parsed

/-! ## NULs -/

theorem directives_noNul {cursor : ParseCursor} {events : List YamlEvent}
    (asks : .assign item value ∈ directivesFrom cursor events) : 0 ∉ value := by
  induction events generalizing cursor with
  | nil => cases asks
  | cons event rest ih =>
      rw [directivesFrom] at asks
      split at asks
      next => cases asks
      next =>
        obtain now | later := List.mem_append.mp asks
        · rw [Option.mem_toList] at now
          unfold ParseCursor.directive at now
          split at now
          next =>
            split at now
            next => cases now
            next => cases now
          next =>
            split at now
            next =>
              cases now
              exact nul_not_mem_cString _
            next => cases now
          next => cases now
        · exact ih later

theorem memberValues_mem (given : value ∈ memberValues item index past) : .assign item value ∈ past := by
  induction past generalizing index with
  | nil => cases index <;> nomatch given
  | cons first rest ih =>
      cases first with
      | closeInterface =>
          cases index with
          | zero => nomatch given
          | succ index => exact List.mem_cons_of_mem _ (ih given)
      | assign other text =>
          cases index with
          | zero =>
              obtain now | later := List.mem_append.mp given
              · rw [Option.mem_toList, Directive.valueFor] at now
                split at now
                next same =>
                  cases now
                  rw [same]
                  exact List.mem_cons_self
                next => nomatch now
              · exact List.mem_cons_of_mem _ (ih later)
          | succ index => exact List.mem_cons_of_mem _ (ih given)

theorem nul_mem_iff_text_lt {size : Nat} (array : CharArray size) : 0 ∈ array.bytes ↔ array.text.length < size := by
  constructor
  · intro nul
    by_contra long
    have whole : array.text = array.bytes :=
      (List.takeWhile_prefix _).eq_of_length_le (by rw [array.full]; exact Nat.not_lt.mp long)
    rw [← whole] at nul
    exact nul_not_mem_cString array.bytes nul
  · intro short
    by_contra noNul
    have whole : array.text = array.bytes := cString_eq_self noNul
    rw [whole, array.full] at short
    exact Nat.lt_irrefl _ short

theorem strncpy_nul_iff {size : Nat} (noNul : 0 ∉ value) : 0 ∈ (strncpy size value).bytes ↔ value.length < size := by
  rw [nul_mem_iff_text_lt]
  by_cases fits : value.length ≤ size
  · rw [strncpy_fits noNul fits]
  · have cut : (strncpy size value).bytes = value.take size := by
      change value.take size ++ List.replicate (size - value.length) 0 = _
      rw [Nat.sub_eq_zero_of_le (Nat.le_of_not_le fits)]
      exact List.append_nil _
    have whole : (strncpy size value).text = value.take size := by
      rw [CharArray.text, cut]
      exact cString_eq_self fun member => noNul (List.mem_of_mem_take member)
    rw [whole, List.length_take]
    omega

theorem textArray_nul_iff {given : List (List UInt8)} (noNul : ∀ value ∈ given, 0 ∉ value) :
    0 ∈ (textArray member.size given).bytes ↔ ∀ value, given.getLast? = some value → value.length < member.size := by
  unfold textArray
  split
  next none =>
    simp only [none, reduceCtorEq, false_implies, implies_true, iff_true]
    cases member <;> exact List.mem_cons_self
  next value last =>
    rw [strncpy_nul_iff (noNul value (List.mem_of_getLast? last)), last]
    simp

/-! ## Parsed packets -/

/-- The last value the document gives for each array of each interface leaves room for a NUL. -/
def TextsShort (events : List YamlEvent) : Prop :=
  ∀ member index value, (memberValues (TextMember.item member) index (directives events)).getLast? = some value →
    value.length < member.size

theorem decodePayload_interfaces {decode : List UInt8 → List UInt8} {d : RtemgrData} {parsed : ParsedPacket}
    (decoded : decodePayload decode alloc d = some parsed) : parsed.d.interfaces = d.interfaces := by
  unfold decodePayload at decoded
  split at decoded
  next =>
    cases decoded
    rfl
  next =>
    split at decoded
    next =>
      cases decoded
      rfl
    next =>
      split at decoded
      next =>
        cases decoded
        rfl
      next => nomatch decoded

/-- Every array of a parsed packet holds a NUL, and what is read as its text
ends inside it, exactly when the last values given for them are short enough. -/
theorem parsed_texts_terminated_iff (decode : List UInt8 → List UInt8) (alloc : ParseAlloc) (events : List YamlEvent)
    (parsed : ParsedPacket) (accepted : rtemgrDataParse decode alloc events = .packet parsed) :
    (∀ intf ∈ parsed.d.interfaces, ∀ member, 0 ∈ (TextMember.array member intf).bytes ∧
      (TextMember.array member intf).text.length < member.size) ↔ TextsShort events := by
  obtain ⟨state, ended, decoded⟩ := rtemgrDataParse_packet accepted
  have texts : TextsFollow (directives events) state := textsFollow_start.afterEvents (follows_start alloc) ended
  have noNul : ∀ member index, ∀ value ∈ memberValues (TextMember.item member) index (directives events), 0 ∉ value :=
    fun member index value given => directives_noNul (memberValues_mem given)
  have each : ∀ member index intf, state.d.interfaces[index]? = some intf →
      (0 ∈ (TextMember.array member intf).bytes ↔
        ∀ value, (memberValues member.item index (directives events)).getLast? = some value →
          value.length < member.size) := by
    intro member index intf found
    rw [texts.given member index intf found, textArray_nul_iff (noNul member index)]
  rw [decodePayload_interfaces decoded]
  constructor
  · intro all member index value last
    have room : index < state.d.interfaces.length := by
      by_contra above
      have isMember : member.item.field = .intf := by cases member <;> rfl
      rw [texts.beyond member.item index isMember (Nat.not_lt.mp above)] at last
      nomatch last
    have found := List.getElem?_eq_getElem room
    exact (each member index _ found).mp (all _ (List.mem_of_getElem? found) member).1 value last
  · intro short intf present member
    obtain ⟨index, found⟩ := List.getElem?_of_mem present
    have nul := (each member index intf found).mpr (short member index)
    exact ⟨nul, (nul_mem_iff_text_lt _).mp nul⟩

def namedDocument (name : String) : List YamlEvent :=
  [ .streamStart, .documentStart, .mappingStart, .key "nr_intf", .scalar (ascii "1"),
    .key "interfaces", .sequenceStart, .mappingStart, .key "name", .scalar (ascii name),
    .mappingEnd, .sequenceEnd, .mappingEnd, .documentEnd, .streamEnd ]

def namedParsed (name : String) : ParsedPacket :=
  ⟨⟨rtemgrDataAlloc.cmd, [{ freshIntf with name := strncpy 16 (ascii name) }]⟩, 0⟩

theorem parsed_texts_terminated_fifteen :
    (∀ intf ∈ (namedParsed "fifteen-letters").d.interfaces, ∀ member, 0 ∈ (TextMember.array member intf).bytes ∧
      (TextMember.array member intf).text.length < member.size) ↔ TextsShort (namedDocument "fifteen-letters") :=
  parsed_texts_terminated_iff id .succeeds _ _ (by decide)

/-- A name of 16 bytes fills its array. -/
theorem parsed_name_unterminated :
    ¬ ∀ (decode : List UInt8 → List UInt8) (alloc : ParseAlloc) (events : List YamlEvent) (parsed : ParsedPacket),
      libyamlDelivers [] events = true → rtemgrDataParse decode alloc events = .packet parsed →
        ∀ intf ∈ parsed.d.interfaces, ∀ member, 0 ∈ (TextMember.array member intf).bytes := by
  intro all
  have nul := all id .succeeds (namedDocument "sixteen-letters!") (namedParsed "sixteen-letters!") (by decide)
    (by decide) _ (List.mem_singleton_self _) .name
  revert nul
  decide

end Rteipc
