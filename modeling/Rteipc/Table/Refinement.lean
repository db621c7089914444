import Rteipc.Data.IdHistory
import Rteipc.Data.Run
import Rteipc.Table

namespace Rteipc

open Data Data.IdHistory

/-! A table in use, next to the history of the ids it has handed out. What the
table is for is `lastValue` of that history: a finite map from the ids in use
to the values stored under them. -/

inductive DtblCall (α : Type) where
  | set (val : Option α)
  | del (id : Int)
  | get (id : Int)

structure DtblSession (α : Type) where
  table : Dtbl α
  history : IdHistory Int α

namespace DtblSession

variable {α : Type}

def start (α : Type) (n : Nat) : DtblSession α := ⟨dtblInitializer α n, []⟩

def afterSet (session : DtblSession α) (val : Option α) : DtblSession α :=
  let (table, id) := dtblSet .succeeds session.table val
  ⟨table, if id < 0 then session.history else .issued id val :: session.history⟩

/-- One call. Allocations succeed, and only ids `dtbl_set` returned are deleted. -/
inductive Step : DtblSession α → DtblCall α → DtblSession α → Prop
  | set (session : DtblSession α) (val : Option α) :
      Step session (.set val) (session.afterSet val)
  | del (session : DtblSession α) (id : Int) (known : ∃ val, .issued id val ∈ session.history) :
      Step session (.del id) ⟨dtblDel session.table id, .retired id :: session.history⟩
  | get (session : DtblSession α) (id : Int) : Step session (.get id) session

/-- The bitmap marks the ids in use, and the entry list holds every issue ever
made, the oldest first. -/
structure Represents (session : DtblSession α) : Prop where
  wellFormed : WellFormed session.history
  inRange : ∀ id val, .issued id val ∈ session.history →
    0 ≤ id ∧ id.toNat / descBitWidth < session.table.maxEntries
  room : ∀ desc, session.table.desc = some desc → session.table.maxEntries ≤ desc.length
  unallocated : session.table.desc = none → session.history = []
  marked : ∀ desc, session.table.desc = some desc → ∀ id : Nat,
    descUsed desc id = true ↔ Live session.history (id : Int)
  entries : ∀ id, (session.table.entryList.find? fun entry => entry.id == id).map DtblEntry.value =
    firstIssue session.history id

theorem start_represents (n : Nat) : Represents (start α n) where
  wellFormed := .nil
  inRange := by simp [start]
  room := by simp [start, dtblInitializer]
  unallocated := fun _ => rfl
  marked := by simp [start, dtblInitializer]
  entries := by simp [start, dtblInitializer, firstIssue]

variable {session next : DtblSession α} {id : Int} {val : Option α}

theorem Represents.dtblGet_eq (represents : Represents session) (id : Int) :
    dtblGet session.table id = firstValue session.history id := by
  rw [firstValue, ← represents.entries, dtblGet]
  cases session.table.entryList.find? fun entry => entry.id == id <;> rfl

/-- The bitmap `dtbl_set` works on is the old one or a fresh one of zeros. -/
theorem Represents.dtblDesc_eq (represents : Represents session) :
    ∃ desc, dtblDesc .succeeds session.table = some desc ∧
      session.table.maxEntries ≤ desc.length ∧
      ∀ id : Nat, descUsed desc id = true ↔ Live session.history (id : Int) := by
  cases known : session.table.desc with
  | some desc =>
      exact ⟨desc, by simp only [dtblDesc, known], represents.room desc known,
        represents.marked desc known⟩
  | none =>
      refine ⟨List.replicate (descBitWidth * session.table.maxEntries / 8) 0#64,
        by simp only [dtblDesc, known, DtblAlloc.succeeds, if_true], ?_, ?_⟩
      · simp only [List.length_replicate, descBitWidth]
        omega
      · simp [represents.unallocated known, Live]

/-- `dtbl_set` fails with -1 and adds nothing, or stores the value under an id
that was not in use. -/
theorem Represents.dtblSet_cases (represents : Represents session) (val : Option α) :
    ∃ desc, session.table.maxEntries ≤ desc.length ∧
      (∀ id : Nat, descUsed desc id = true ↔ Live session.history (id : Int)) ∧
      (dtblSet .succeeds session.table val = ({ session.table with desc := some desc }, -1) ∨
        ∃ id : Nat, id / descBitWidth < session.table.maxEntries ∧
          ¬ Live session.history (id : Int) ∧
          dtblSet .succeeds session.table val =
            ({ session.table with
                desc := some (setDescId desc id)
                nextEntry := id + 1
                entryList := session.table.entryList ++ [⟨(id : Int), val⟩] }, (id : Int))) := by
  obtain ⟨desc, allocated, room, marked⟩ := represents.dtblDesc_eq
  refine ⟨desc, room, marked, ?_⟩
  by_cases failed : dtblNextId desc session.table.nextEntry session.table.maxEntries < 0
  · exact .inl (dtblSet_full allocated failed)
  · right
    obtain ⟨id, chosen, bound, clear⟩ := dtblNextId_spec (Int.not_lt.mp failed)
    refine ⟨id, bound, ?_, dtblSet_stored allocated chosen rfl⟩
    rw [← marked, clear]
    exact Bool.false_ne_true

theorem Represents.afterSet (represents : Represents session) (val : Option α) :
    Represents (session.afterSet val) := by
  obtain ⟨desc, room, marked, failed | ⟨id, bound, free, stored⟩⟩ := represents.dtblSet_cases val
  · simp only [DtblSession.afterSet, failed]
    exact {
      wellFormed := represents.wellFormed
      inRange := represents.inRange
      room := by rintro _ ⟨⟩; exact room
      unallocated := by rintro ⟨⟩
      marked := by rintro _ ⟨⟩; exact marked
      entries := represents.entries }
  · have nonnegative : ¬ ((id : Int) < 0) := by omega
    simp only [DtblSession.afterSet, stored, if_neg nonnegative]
    exact {
      wellFormed := .issued represents.wellFormed free val
      inRange := by
        intro other old issued
        rcases List.mem_cons.mp issued with same | older
        · obtain ⟨rfl, rfl⟩ := IdEvent.issued.inj same
          exact ⟨Int.natCast_nonneg id, by simpa only [Int.toNat_natCast] using bound⟩
        · exact represents.inRange other old older
      room := by
        rintro _ ⟨⟩
        simpa only [setDescId_length] using room
      unallocated := by rintro ⟨⟩
      marked := by
        rintro _ ⟨⟩ other
        rw [descUsed_setDescId (by omega), Bool.or_eq_true, decide_eq_true_eq, marked other, Live,
          Int.natCast_inj]
      entries := by
        intro other
        rw [List.find?_append, Option.map_or, represents.entries, firstIssue]
        by_cases same : (id : Int) = other
        · simp [same]
        · simp [same] }

theorem Represents.afterDel (represents : Represents session)
    (known : ∃ val, .issued id val ∈ session.history) :
    Represents ⟨dtblDel session.table id, .retired id :: session.history⟩ := by
  obtain ⟨val, issued⟩ := known
  obtain ⟨nonnegative, bound⟩ := represents.inRange id val issued
  simp only [dtblDel, if_pos bound]
  exact {
    wellFormed := .retired represents.wellFormed ⟨val, issued⟩
    inRange := fun other old issued =>
      represents.inRange other old ((List.mem_cons.mp issued).resolve_left (by simp))
    room := by
      intro desc cleared
      obtain ⟨before, known, rfl⟩ := Option.map_eq_some_iff.mp cleared
      simpa only [clearDescId_length] using represents.room before known
    unallocated := by
      intro cleared
      rw [Option.map_eq_none_iff] at cleared
      rw [represents.unallocated cleared] at issued
      cases issued
    marked := by
      intro desc cleared other
      obtain ⟨before, known, rfl⟩ := Option.map_eq_some_iff.mp cleared
      have sameId : id.toNat = other ↔ id = (other : Int) := by omega
      rw [descUsed_clearDescId, Bool.and_eq_true, represents.marked before known, Live,
        Bool.not_eq_true', decide_eq_false_iff_not, sameId, and_comm]
    entries := represents.entries }

theorem Step.represents {call : DtblCall α} (represents : Represents session)
    (step : Step session call next) : Represents next := by
  cases step with
  | set val => exact represents.afterSet val
  | del id known => exact represents.afterDel known
  | get id => exact represents

/-- The table answers as the finite map says. -/
def RefinesMap (session : DtblSession α) : Prop :=
  ∀ id, dtblGet session.table id = lastValue session.history id

theorem Represents.refinesMap_iff (represents : Represents session) :
    RefinesMap session ↔ Consistent session.history := by
  simp only [RefinesMap, Consistent, represents.dtblGet_eq]

theorem Step.deterministic {first second : DtblSession α} {call : DtblCall α}
    (left : Step session call first) (right : Step session call second) : first = second := by
  cases left <;> cases right <;> rfl

/-- What one call does to the two conditions. -/
theorem Step.refinesMap_iff {call : DtblCall α} (represents : Represents session)
    (refines : RefinesMap session) (clean : RetiresOnlyNull session.history)
    (step : Step session call next) : RefinesMap next ↔ RetiresOnlyNull next.history := by
  rw [(step.represents represents).refinesMap_iff]
  have wellFormed := (step.represents represents).wellFormed
  have consistent := represents.refinesMap_iff.mp refines
  cases step with
  | set val =>
      simp only [DtblSession.afterSet] at wellFormed ⊢
      split at wellFormed
      · rename_i failed
        simp only [if_pos failed]
        exact ⟨fun _ => clean, fun _ => consistent⟩
      · rename_i issued
        simp only [if_neg issued]
        exact consistent_issued wellFormed clean consistent
  | del id known => exact consistent_retired wellFormed clean consistent
  | get id => exact ⟨fun _ => clean, fun _ => consistent⟩

theorem Step.clean_before {call : DtblCall α} (step : Step session call next)
    (clean : RetiresOnlyNull next.history) : RetiresOnlyNull session.history := by
  cases step with
  | set val =>
      simp only [DtblSession.afterSet] at clean
      split at clean
      · exact clean
      · exact clean.earlier
  | del id known => exact clean.earlier
  | get id => exact clean

theorem clean_before {calls : List (DtblCall α)} {final : DtblSession α}
    (run : Reaches Step session calls final) (clean : RetiresOnlyNull final.history) :
    RetiresOnlyNull session.history := by
  induction run with
  | nil => exact clean
  | cons taken _ ih => exact taken.clean_before (ih clean)

/-- Along a run that starts clean, the table answers as the map in every state
reached exactly when the last state's history is clean. -/
theorem always_refinesMap_iff {calls : List (DtblCall α)} {final : DtblSession α}
    (run : Reaches Step session calls final) (represents : Represents session)
    (refines : RefinesMap session) (clean : RetiresOnlyNull session.history) :
    Always Step RefinesMap session calls ↔ RetiresOnlyNull final.history := by
  induction run with
  | nil session => exact ⟨fun _ => clean, fun _ => refines⟩
  | @cons before middle after call rest first following ih =>
      have representsNext := first.represents represents
      have exactStep := first.refinesMap_iff represents refines clean
      constructor
      · intro always
        have next := always.2 middle first
        exact (ih representsNext next.start (exactStep.mp next.start)).mp next
      · intro cleanLast
        have cleanNext := clean_before following cleanLast
        have nextRefines := exactStep.mpr cleanNext
        refine ⟨refines, fun other taken => ?_⟩
        rw [← first.deterministic taken]
        exact (ih representsNext nextRefines cleanNext).mpr cleanLast

end DtblSession

open DtblSession

/-- Every `dtbl_get` in a run answers as the finite map exactly when the run
deletes no id under which it ever stores a value other than NULL. -/
theorem dtbl_refines_map_iff {α : Type} (n : Nat) (calls : List (DtblCall α))
    (final : DtblSession α) (run : Reaches Step (start α n) calls final) :
    Always Step (fun session => ∀ id, dtblGet session.table id = lastValue session.history id)
        (start α n) calls ↔
      ∀ id, .retired id ∈ final.history → ∀ val, .issued id (some val) ∉ final.history :=
  always_refinesMap_iff run (start_represents n) (fun _ => rfl) .nil

/-- Two values under two ids. -/
theorem dtbl_refines_map_two_sets :
    Always Step (fun session => ∀ id, dtblGet session.table id = lastValue session.history id)
        (start Nat 128) [.set (some 5), .set (some 6)] ↔
      ∀ id, .retired id ∈ [IdEvent.issued 1 (some 6), .issued (0 : Int) (some 5)] →
        ∀ val, .issued id (some val) ∉ [IdEvent.issued 1 (some 6), .issued (0 : Int) (some 5)] :=
  dtbl_refines_map_iff 128 [.set (some 5), .set (some 6)]
    (((start Nat 128).afterSet (some 5)).afterSet (some 6))
    (.cons (.set _ _) (.cons (.set _ _) (.nil _)))

/-- After its delete, id 0 still denotes the value stored under it. -/
theorem dtbl_del_keeps_value :
    ¬ ∀ (calls : List (DtblCall Nat)) (final : DtblSession Nat),
      Reaches Step (start Nat 128) calls final →
        ∀ id, dtblGet final.table id = lastValue final.history id := by
  intro refines
  have run : Reaches Step (start Nat 128) [.set (some 5), .del 0]
      ⟨dtblDel ((start Nat 128).afterSet (some 5)).table 0,
        .retired 0 :: ((start Nat 128).afterSet (some 5)).history⟩ :=
    .cons (.set _ _) (.cons (.del _ 0 ⟨some 5, by decide⟩) (.nil _))
  have read := refines _ _ run 0
  revert read
  decide

end Rteipc
