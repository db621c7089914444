import Rteipc.Table.Refinement

namespace Rteipc

open Data Data.IdHistory

/-! The ids in use, the bitmap and the cursor along any run of a table. -/

namespace DtblSession

variable {α : Type} {session next : DtblSession α} {call : DtblCall α}

/-- The cursor is on an id of the table or just past the last one. -/
def CursorInside (session : DtblSession α) : Prop :=
  session.table.nextEntry ≤ descBitWidth * session.table.maxEntries

/-- What `dtbl_set` gives out is inside the table and not in use. -/
def GivesFreshIds (session : DtblSession α) : Prop :=
  ∀ val id, (dtblSet .succeeds session.table val).2 = id → 0 ≤ id →
    id < (descBitWidth * session.table.maxEntries : Nat) ∧ ¬Live session.history id

/-- The ids in use are inside the table, and the bitmap has a bit for each and no other. -/
def MarksLiveIds (session : DtblSession α) : Prop :=
  (∀ id, Live session.history id → 0 ≤ id ∧ id < (descBitWidth * session.table.maxEntries : Nat)) ∧
    ∀ id : Nat, dtblUsed session.table id = true ↔ Live session.history (id : Int)

theorem id_inside {id maxEntries : Nat} (word : id / descBitWidth < maxEntries) : id < descBitWidth * maxEntries := by
  simp only [descBitWidth] at word ⊢
  omega

theorem Represents.givesFreshIds (represents : Represents session) : GivesFreshIds session := by
  intro val id given nonnegative
  obtain ⟨desc, -, -, failed | ⟨fresh, word, free, stored⟩⟩ := represents.dtblSet_cases val
  · rw [failed] at given
    subst given
    nomatch nonnegative
  · rw [stored] at given
    subst given
    exact ⟨Int.ofNat_lt.mpr (id_inside word), free⟩

theorem Represents.marksLiveIds (represents : Represents session) : MarksLiveIds session := by
  constructor
  · intro id live
    obtain ⟨val, issued⟩ := live.issued
    obtain ⟨nonnegative, word⟩ := represents.inRange id val issued
    have inside := id_inside word
    exact ⟨nonnegative, by omega⟩
  · intro id
    unfold dtblUsed
    cases known : session.table.desc with
    | none =>
        rw [represents.unallocated known]
        exact ⟨nofun, nofun⟩
    | some desc => exact represents.marked desc known id

/-- Only `dtbl_set` moves the cursor, to just past the id it gives out. -/
theorem CursorInside.step (inside : CursorInside session) (represents : Represents session)
    (taken : Step session call next) : CursorInside next := by
  unfold CursorInside at inside ⊢
  cases taken with
  | set val =>
      obtain ⟨desc, -, -, failed | ⟨id, word, -, stored⟩⟩ := represents.dtblSet_cases val
      · simpa only [afterSet, failed] using inside
      · simp only [afterSet, stored]
        exact id_inside word
  | del id known =>
      simp only [dtblDel]
      split
      next => exact inside
      next => exact inside
  | get id => exact inside

/-- The bitmap marks the ids in use, and the cursor is inside. -/
def Sound (session : DtblSession α) : Prop := Represents session ∧ CursorInside session

theorem start_sound (n : Nat) : Sound (start α n) := ⟨start_represents n, Nat.zero_le _⟩

theorem Step.sound (sound : Sound session) (taken : Step session call next) : Sound next :=
  ⟨taken.represents sound.1, sound.2.step sound.1 taken⟩

end DtblSession

open DtblSession

/-- In every state a table gets into, an id given out is inside the table and
differs from all that are in use, the bitmap marks these and no other, and the
cursor stays inside. -/
theorem dtbl_ids_live {α : Type} (n : Nat) (calls : List (DtblCall α)) (session : DtblSession α)
    (run : Reaches Step (start α n) calls session) :
    (∀ val id, (dtblSet .succeeds session.table val).2 = id → 0 ≤ id →
        id < (descBitWidth * session.table.maxEntries : Nat) ∧ ¬Live session.history id) ∧
      ((∀ id, Live session.history id → 0 ≤ id ∧ id < (descBitWidth * session.table.maxEntries : Nat)) ∧
        ∀ id : Nat, dtblUsed session.table id = true ↔ Live session.history (id : Int)) ∧
      session.table.nextEntry ≤ descBitWidth * session.table.maxEntries := by
  have sound : Sound session := run.invariant (fun _ _ _ before taken => taken.sound before) (start_sound n)
  exact ⟨sound.1.givesFreshIds, sound.1.marksLiveIds, sound.2⟩

/-- After an id was given out and taken back. -/
theorem dtbl_ids_live_returned :
    (∀ val id, (dtblSet .succeeds (dtblDel ((start Nat 128).afterSet (some 5)).table 0) val).2 = id → 0 ≤ id →
        id < (descBitWidth * 2 : Nat) ∧ ¬Live [.retired 0, IdEvent.issued (0 : Int) (some 5)] id) ∧
      ((∀ id, Live [.retired 0, IdEvent.issued (0 : Int) (some 5)] id → 0 ≤ id ∧ id < (descBitWidth * 2 : Nat)) ∧
        ∀ id : Nat, dtblUsed (dtblDel ((start Nat 128).afterSet (some 5)).table 0) id = true ↔
          Live [.retired 0, IdEvent.issued (0 : Int) (some 5)] (id : Int)) ∧
      (dtblDel ((start Nat 128).afterSet (some 5)).table 0).nextEntry ≤ descBitWidth * 2 :=
  dtbl_ids_live 128 [.set (some 5), .del 0]
    ⟨dtblDel ((start Nat 128).afterSet (some 5)).table 0, [.retired 0, .issued 0 (some 5)]⟩
    (.cons (.set _ _) (.cons (.del _ 0 ⟨some 5, by decide⟩) (.nil _)))

end Rteipc
