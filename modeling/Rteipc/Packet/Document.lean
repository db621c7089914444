import Rteipc.Packet.Parse

namespace Rteipc

/-! What a document asks the parser to store, and in which order.

Keys, nesting and the ends of mappings decide alone which value goes to which
item; the stored data has no say in it. So the parser's variables can be told
from the directives it has met.
-/

/-- A value for an item, or the end of a mapping under `interfaces`. -/
inductive Directive where
  | assign (item : Item) (value : List UInt8)
  | closeInterface
deriving DecidableEq, Repr

def ParseCursor.next (cursor : ParseCursor) : YamlEvent → ParseCursor
  | .sequenceStart => cursor.openSequence
  | .sequenceEnd => cursor.closeSequence
  | .scalar value =>
      if cursor.item = .itemNone then cursor.key (cString value) else { cursor with item := .itemNone }
  | _ => cursor

def ParseCursor.directive (cursor : ParseCursor) : YamlEvent → Option Directive
  | .mappingEnd => if cursor.field = .intf then some .closeInterface else none
  | .scalar value =>
      if cursor.item ≠ .itemNone ∧ cursor.item.field = cursor.field then
        some (.assign cursor.item (cString value))
      else none
  | _ => none

def directivesFrom (cursor : ParseCursor) : List YamlEvent → List Directive
  | [] => []
  | event :: rest =>
      if event = .streamEnd then []
      else (cursor.directive event).toList ++ directivesFrom (cursor.next event) rest

def directives (events : List YamlEvent) : List Directive :=
  directivesFrom ParseState.start.cursor events

def Directive.valueFor (item : Item) : Directive → Option (List UInt8)
  | .assign given value => if given = item then some value else none
  | .closeInterface => none

/-- The values given for an item, oldest first. -/
def values (item : Item) (past : List Directive) : List (List UInt8) :=
  past.filterMap (Directive.valueFor item)

/-- Mappings under `interfaces` that have ended. -/
def closedInterfaces (past : List Directive) : Nat := past.count .closeInterface

/-- The number of interfaces a value of `nr_intf` declares. -/
def declaredCount (value : List UInt8) : Int := ((strtoul value 0).setWidth 32).toInt

/-- The last number under `s`. -/
def sizeGiven (given : List (List UInt8)) : BitVec 64 :=
  match given.getLast? with
  | none => 0
  | some value => strtoul value 0

/-- The last text under `v`, unless its copy could not be allocated. -/
def textGiven (alloc : ParseAlloc) (given : List (List UInt8)) : Option (List UInt8) :=
  match given.getLast? with
  | none => none
  | some value => if alloc.strdup (given.length - 1) then some value else none

/-- As many interfaces as the largest declared number. -/
structure Declares (counts : List (List UInt8)) (nrIntf : Nat) (intf : Bool) : Prop where
  room : ∀ value ∈ counts, declaredCount value ≤ nrIntf
  reached : nrIntf = 0 ∨ ∃ value ∈ counts, declaredCount value = nrIntf
  assigned : nrIntf = 0 ∨ intf = true

/-- The parser's data after the directives of the past. -/
structure Follows (alloc : ParseAlloc) (past : List Directive) (state : ParseState) : Prop where
  index : state.idxIntf = closedInterfaces past
  interfaces : Declares (values .nrIntf past) state.d.interfaces.length state.intf
  size : state.d.cmd.val.s = sizeGiven (values .valS past)
  text : state.d.cmd.val.v = textGiven alloc (values .valV past)
  dups : state.dups = (values .valV past).length

variable {alloc : ParseAlloc} {past : List Directive} {directive : Directive}
  {state next : ParseState} {event : YamlEvent} {item : Item} {value : List UInt8}

theorem values_same : values item (past ++ [.assign item value]) = values item past ++ [value] := by
  have given : Directive.valueFor item (.assign item value) = some value := if_pos rfl
  rw [values, List.filterMap_append, List.filterMap_cons_some given]
  rfl

theorem values_other (other : directive.valueFor item = none) :
    values item (past ++ [directive]) = values item past := by
  rw [values, List.filterMap_append, List.filterMap_cons_none other]
  exact List.append_nil _

theorem closedInterfaces_assign :
    closedInterfaces (past ++ [.assign item value]) = closedInterfaces past := by
  rw [closedInterfaces, List.count_append, List.count_singleton]
  rfl

theorem closedInterfaces_close : closedInterfaces (past ++ [.closeInterface]) = closedInterfaces past + 1 := by
  rw [closedInterfaces, List.count_append, List.count_singleton_self]
  rfl

theorem follows_start (alloc : ParseAlloc) : Follows alloc [] .start :=
  ⟨rfl, ⟨nofun, .inl rfl, .inl rfl⟩, rfl, rfl, rfl⟩

theorem Declares.declare {counts : List (List UInt8)} {nrIntf grown : Nat} {intf : Bool}
    (declares : Declares counts nrIntf intf) (value : List UInt8)
    (grows : grown = nrIntf + (declaredCount value - nrIntf).toNat) :
    Declares (counts ++ [value]) grown true := by
  refine ⟨?_, ?_, .inr rfl⟩
  · intro earlier member
    obtain known | last := List.mem_append.mp member
    · have before := declares.room earlier known
      omega
    · rw [List.mem_singleton.mp last]
      omega
  · by_cases more : nrIntf < declaredCount value
    · exact .inr ⟨value, List.mem_append_right _ (List.mem_singleton_self value), by omega⟩
    · have unchanged : grown = nrIntf := by omega
      rw [unchanged]
      obtain empty | ⟨earlier, known, equal⟩ := declares.reached
      · exact .inl empty
      · exact .inr ⟨earlier, List.mem_append_left _ known, equal⟩

theorem growInterfaces_eq {realloc : Nat → Bool} {d grown : RtemgrData} {count : Nat}
    (done : growInterfaces realloc d count = some grown) :
    grown = { d with interfaces := d.interfaces ++ List.replicate count freshIntf } := by
  induction count generalizing d with
  | zero =>
      obtain rfl := Option.some.inj done
      rw [List.replicate_zero, List.append_nil]
  | succ count ih =>
      rw [growInterfaces, rtemgrDataAllocInterface] at done
      split at done
      next => cases done
      next one allocated =>
        split at allocated
        next =>
          obtain rfl := Option.some.inj allocated
          rw [ih done, List.replicate_succ, List.append_assoc, List.singleton_append]
        next => cases allocated

/-! ## What one value does -/

theorem storeItem_elsewhere (elsewhere : state.cursor.item.field ≠ state.cursor.field) :
    storeItem alloc state value = .ok state := by
  unfold storeItem
  split
  all_goals first
    | rfl
    | (next field item => exact (elsewhere (by rw [field, item]; rfl)).elim)

/-- The assignment to a member of an interface. -/
def Item.store (item : Item) (value : List UInt8) (intf : RtemgrIntf) : RtemgrIntf :=
  match item with
  | .intfId => { intf with id := (strtoul value 0).setWidth 32 }
  | .intfBus => { intf with busType := (strtoul value 0).setWidth 32 }
  | .intfName => { intf with name := strncpy 16 value }
  | .intfPath => { intf with path := strncpy 128 value }
  | .intfDom => { intf with domain := (strtoul value 0).setWidth 32 }
  | .intfManaged => { intf with managed := (strtoul value 0).setWidth 32 }
  | .intfPartner => { intf with partner := strncpy 16 value }
  | _ => intf

theorem storeItem_store (field : state.cursor.field = .intf) (own : state.cursor.item.field = .intf) :
    storeItem alloc state value = storeIntf state (state.cursor.item.store value) := by
  unfold storeItem
  rw [field]
  cases given : state.cursor.item <;> rw [given] at own
  case intfId | intfBus | intfName | intfPath | intfDom | intfManaged | intfPartner => rfl
  all_goals nomatch own

/-- The variables that `Follows` speaks of. -/
def ParseState.tracked (state : ParseState) :=
  (state.idxIntf, state.d.interfaces.length, state.intf, state.d.cmd.val.s, state.d.cmd.val.v, state.dups)

theorem Follows.congr (follows : Follows alloc past state) (same : next.tracked = state.tracked) :
    Follows alloc past next := by
  simp only [ParseState.tracked, Prod.mk.injEq] at same
  obtain ⟨index, length, intf, s, v, dups⟩ := same
  refine ⟨?_, ?_, ?_, ?_, ?_⟩
  · rw [index, follows.index]
  · rw [length, intf]
    exact follows.interfaces
  · rw [s, follows.size]
  · rw [v, follows.text]
  · rw [dups, follows.dups]

theorem Follows.other (follows : Follows alloc past state) (count : item ≠ .nrIntf) (s : item ≠ .valS)
    (v : item ≠ .valV) : Follows alloc (past ++ [.assign item value]) state := by
  have counts : values .nrIntf (past ++ [.assign item value]) = values .nrIntf past :=
    values_other (if_neg count)
  have sizes : values .valS (past ++ [.assign item value]) = values .valS past := values_other (if_neg s)
  have texts : values .valV (past ++ [.assign item value]) = values .valV past := values_other (if_neg v)
  refine ⟨?_, ?_, ?_, ?_, ?_⟩
  · rw [follows.index, closedInterfaces_assign]
  · rw [counts]
    exact follows.interfaces
  · rw [sizes, follows.size]
  · rw [texts, follows.text]
  · rw [texts, follows.dups]

theorem Follows.closeInterface (follows : Follows alloc past state) :
    Follows alloc (past ++ [.closeInterface]) { state with idxIntf := state.idxIntf + 1 } := by
  have same : ∀ item, values item (past ++ [.closeInterface]) = values item past :=
    fun item => values_other rfl
  refine ⟨?_, ?_, ?_, ?_, ?_⟩
  · rw [closedInterfaces_close, ← follows.index]
  · rw [same]
    exact follows.interfaces
  · rw [same]
    exact follows.size
  · rw [same]
    exact follows.text
  · rw [same]
    exact follows.dups

theorem Follows.nrIntf (follows : Follows alloc past state)
    (stored : storeNrIntf alloc state value = .ok next) :
    Follows alloc (past ++ [.assign .nrIntf value]) next ∧ next.cursor = state.cursor := by
  simp only [storeNrIntf] at stored
  split at stored
  next => nomatch stored
  next d grown =>
    obtain rfl := Except.ok.inj stored
    obtain rfl := growInterfaces_eq grown
    refine ⟨⟨?_, ?_, ?_, ?_, ?_⟩, rfl⟩
    · rw [closedInterfaces_assign]
      exact follows.index
    · rw [values_same]
      apply follows.interfaces.declare value
      rw [List.length_append, List.length_replicate]
      rfl
    · rw [values_other rfl]
      exact follows.size
    · rw [values_other rfl]
      exact follows.text
    · rw [values_other rfl]
      exact follows.dups

theorem Follows.valS (follows : Follows alloc past state) :
    Follows alloc (past ++ [.assign .valS value]) { state with d.cmd.val.s := strtoul value 0 } := by
  refine ⟨?_, ?_, ?_, ?_, ?_⟩
  · rw [closedInterfaces_assign]
    exact follows.index
  · rw [values_other rfl]
    exact follows.interfaces
  · rw [values_same, sizeGiven, List.getLast?_concat]
  · rw [values_other rfl]
    exact follows.text
  · rw [values_other rfl]
    exact follows.dups

theorem Follows.valV (follows : Follows alloc past state) :
    Follows alloc (past ++ [.assign .valV value]) (storeV alloc state value) := by
  refine ⟨?_, ?_, ?_, ?_, ?_⟩
  · rw [closedInterfaces_assign]
    exact follows.index
  · rw [values_other rfl]
    exact follows.interfaces
  · rw [values_other rfl]
    exact follows.size
  · rw [values_same, textGiven, List.getLast?_concat, List.length_append, List.length_singleton,
      Nat.add_sub_cancel, ← follows.dups]
    rfl
  · rw [values_same, List.length_append, List.length_singleton, ← follows.dups]
    rfl

theorem storeIntf_tracked {set : RtemgrIntf → RtemgrIntf} (stored : storeIntf state set = .ok next) :
    next.tracked = state.tracked ∧ next.cursor = state.cursor := by
  unfold storeIntf at stored
  split at stored
  next =>
    obtain rfl := Except.ok.inj stored
    simp only [ParseState.tracked, List.length_modify, and_self]
  next => nomatch stored

theorem Follows.afterItem (follows : Follows alloc past state) (present : state.cursor.item ≠ .itemNone)
    (here : state.cursor.item.field = state.cursor.field) (stored : storeItem alloc state value = .ok next) :
    Follows alloc (past ++ [.assign state.cursor.item value]) next ∧ next.cursor = state.cursor := by
  by_cases field : state.cursor.field = .intf
  · rw [field] at here
    rw [storeItem_store field here] at stored
    obtain ⟨tracked, cursor⟩ := storeIntf_tracked stored
    refine ⟨(follows.other ?_ ?_ ?_).congr tracked, cursor⟩
    all_goals
      intro item
      rw [item] at here
      nomatch here
  · unfold storeItem at stored
    rw [← here] at stored field
    cases given : state.cursor.item <;> rw [given] at stored field present
    case itemNone => exact (present rfl).elim
    case nrIntf => exact follows.nrIntf stored
    case valV =>
      obtain rfl := Except.ok.inj stored
      exact ⟨follows.valV, rfl⟩
    case valS =>
      obtain rfl := Except.ok.inj stored
      exact ⟨follows.valS, rfl⟩
    case cmdAct | cmdErr | extAddr | extRsize =>
      obtain rfl := Except.ok.inj stored
      exact ⟨(follows.other (by decide) (by decide) (by decide)).congr rfl, rfl⟩
    all_goals exact (field rfl).elim

/-! ## What one event does -/

theorem Follows.afterEvent (follows : Follows alloc past state) (parsed : parseEvent alloc state event = .ok next) :
    Follows alloc (past ++ (state.cursor.directive event).toList) next ∧
      next.cursor = state.cursor.next event := by
  cases event
  case mappingEnd =>
    obtain rfl := Except.ok.inj parsed
    by_cases field : state.cursor.field = .intf
    · rw [ParseCursor.directive, if_pos field, if_pos field]
      exact ⟨follows.closeInterface, rfl⟩
    · rw [ParseCursor.directive, if_neg field, if_neg field, Option.toList_none, List.append_nil]
      exact ⟨follows, rfl⟩
  case scalar text =>
    by_cases present : state.cursor.item = .itemNone
    · rw [parseEvent, parseScalar, if_pos present] at parsed
      obtain rfl := Except.ok.inj parsed
      rw [ParseCursor.directive, if_neg fun given => given.1 present, Option.toList_none, List.append_nil,
        ParseCursor.next, if_pos present]
      exact ⟨follows.congr rfl, rfl⟩
    · rw [parseEvent, parseScalar, if_neg present] at parsed
      rw [ParseCursor.next, if_neg present]
      split at parsed
      next => nomatch parsed
      next middle stored =>
        obtain rfl := Except.ok.inj parsed
        by_cases here : state.cursor.item.field = state.cursor.field
        · obtain ⟨after, cursor⟩ := follows.afterItem present here stored
          rw [ParseCursor.directive, if_pos ⟨present, here⟩]
          exact ⟨after.congr rfl, by rw [cursor]⟩
        · rw [storeItem_elsewhere here] at stored
          obtain rfl := Except.ok.inj stored
          rw [ParseCursor.directive, if_neg fun given => here given.2, Option.toList_none, List.append_nil]
          exact ⟨follows.congr rfl, rfl⟩
  all_goals
    obtain rfl := Except.ok.inj parsed
    refine ⟨?_, rfl⟩
    rw [ParseCursor.directive, Option.toList_none, List.append_nil]
    exact follows.congr rfl
    all_goals nofun

theorem Follows.afterEvents {events : List YamlEvent} {last : ParseState} (follows : Follows alloc past state)
    (parsed : parseEvents alloc state events = .ok last) :
    Follows alloc (past ++ directivesFrom state.cursor events) last := by
  induction events generalizing state past with
  | nil => nomatch parsed
  | cons event rest ih =>
      rw [parseEvents] at parsed
      split at parsed
      next => nomatch parsed
      next next stepped =>
        obtain ⟨after, cursor⟩ := follows.afterEvent stepped
        rw [directivesFrom]
        split at parsed
        next ended =>
          obtain rfl := Except.ok.inj parsed
          rw [ended] at after
          rw [if_pos ended]
          exact after
        next running =>
          rw [if_neg running, ← List.append_assoc, ← cursor]
          exact ih after parsed

end Rteipc
