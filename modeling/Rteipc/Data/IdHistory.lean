import Mathlib.Data.List.Infix

namespace Rteipc.Data

/-! Histories of identifiers that are issued for a value and later retired.

A history lists its events with the latest first.  The value an identifier
denotes is decided by the latest event about it; `firstValue` is what a reader
sees who stops at the oldest event instead.  The two readings agree along a
whole history exactly when no retired identifier ever had a real value.
-/

inductive IdEvent (Id α : Type*) where
  | issued (id : Id) (value : Option α)
  | retired (id : Id)
deriving DecidableEq

abbrev IdHistory (Id α : Type*) := List (IdEvent Id α)

namespace IdHistory

section Definitions

variable {Id α : Type*}

/-- The value of the latest issue of `id`, unless it has been retired since. -/
def lastValue [DecidableEq Id] : IdHistory Id α → Id → Option α
  | [], _ => none
  | .issued other value :: earlier, id => if other = id then value else lastValue earlier id
  | .retired other :: earlier, id => if other = id then none else lastValue earlier id

/-- The oldest issue of `id`, whatever happened since. -/
def firstIssue [DecidableEq Id] : IdHistory Id α → Id → Option (Option α)
  | [], _ => none
  | .retired _ :: earlier, id => firstIssue earlier id
  | .issued other value :: earlier, id =>
      (firstIssue earlier id).or (if other = id then some value else none)

def firstValue [DecidableEq Id] (history : IdHistory Id α) (id : Id) : Option α :=
  (firstIssue history id).join

/-- The latest event about `id` is an issue. -/
def Live : IdHistory Id α → Id → Prop
  | [], _ => False
  | .issued other _ :: earlier, id => other = id ∨ Live earlier id
  | .retired other :: earlier, id => other ≠ id ∧ Live earlier id

/-- Identifiers are issued only when not in use, and retired only once issued. -/
inductive WellFormed : IdHistory Id α → Prop
  | nil : WellFormed []
  | issued {history id} (earlier : WellFormed history) (free : ¬ Live history id)
      (value : Option α) : WellFormed (.issued id value :: history)
  | retired {history id} (earlier : WellFormed history)
      (known : ∃ value, .issued id value ∈ history) : WellFormed (.retired id :: history)

/-- Both readings give the same value for every identifier. -/
def Consistent [DecidableEq Id] (history : IdHistory Id α) : Prop :=
  ∀ id, firstValue history id = lastValue history id

/-- No identifier is both retired and issued for a real value. -/
def RetiresOnlyNull (history : IdHistory Id α) : Prop :=
  ∀ id, .retired id ∈ history → ∀ value, .issued id (some value) ∉ history

end Definitions

variable {Id α : Type*} {history : IdHistory Id α} {id other : Id} {value : Option α}

theorem live_or_retired (issued : .issued id value ∈ history) :
    Live history id ∨ .retired id ∈ history := by
  classical
  induction history with
  | nil => cases issued
  | cons event earlier ih =>
      rcases List.mem_cons.mp issued with same | issued
      · subst event
        exact .inl (.inl rfl)
      · rcases ih issued with live | retired
        · cases event with
          | issued other _ => exact .inl (.inr live)
          | retired other =>
              by_cases same : other = id
              · subst same
                exact .inr List.mem_cons_self
              · exact .inl ⟨same, live⟩
        · exact .inr (List.mem_cons_of_mem _ retired)

theorem Live.issued (live : Live history id) : ∃ value, .issued id value ∈ history := by
  induction history with
  | nil => nomatch live
  | cons event earlier ih =>
      cases event with
      | issued other value =>
          obtain rfl | before := live
          · exact ⟨value, List.mem_cons_self⟩
          · obtain ⟨old, member⟩ := ih before
            exact ⟨old, List.mem_cons_of_mem _ member⟩
      | retired other =>
          obtain ⟨old, member⟩ := ih live.2
          exact ⟨old, List.mem_cons_of_mem _ member⟩

theorem WellFormed.known (wellFormed : WellFormed history) (retired : .retired id ∈ history) :
    ∃ value, .issued id value ∈ history := by
  induction wellFormed with
  | nil => cases retired
  | issued _ _ _ ih =>
      obtain ⟨old, member⟩ := ih ((List.mem_cons.mp retired).resolve_left (by simp))
      exact ⟨old, List.mem_cons_of_mem _ member⟩
  | retired _ known ih =>
      rcases List.mem_cons.mp retired with same | older
      · obtain ⟨old, member⟩ := known
        rw [← IdEvent.retired.inj same] at member
        exact ⟨old, List.mem_cons_of_mem _ member⟩
      · obtain ⟨old, member⟩ := ih older
        exact ⟨old, List.mem_cons_of_mem _ member⟩

theorem RetiresOnlyNull.nil : RetiresOnlyNull ([] : IdHistory Id α) := by
  intro id retired
  cases retired

theorem RetiresOnlyNull.earlier {event : IdEvent Id α}
    (clean : RetiresOnlyNull (event :: history)) : RetiresOnlyNull history :=
  fun id retired value issued =>
    clean id (List.mem_cons_of_mem _ retired) value (List.mem_cons_of_mem _ issued)

variable [DecidableEq Id]

theorem firstIssue_mem (found : firstIssue history id = some value) :
    .issued id value ∈ history := by
  induction history with
  | nil => cases found
  | cons event earlier ih =>
      cases event with
      | retired other => exact List.mem_cons_of_mem _ (ih found)
      | issued other new =>
          cases older : firstIssue earlier id with
          | some old =>
              simp only [firstIssue, older, Option.some_or, Option.some.injEq] at found
              exact List.mem_cons_of_mem _ (ih (by rw [older, found]))
          | none =>
              simp only [firstIssue, older, Option.none_or] at found
              split at found
              · rename_i same
                rw [← same, ← Option.some.inj found]
                exact List.mem_cons_self
              · cases found

theorem firstIssue_exists (issued : .issued id value ∈ history) :
    ∃ old, firstIssue history id = some old := by
  induction history with
  | nil => cases issued
  | cons event earlier ih =>
      cases event with
      | retired other => exact ih ((List.mem_cons.mp issued).resolve_left (by simp))
      | issued other new =>
          cases older : firstIssue earlier id with
          | some old => exact ⟨old, by simp only [firstIssue, older, Option.some_or]⟩
          | none =>
              rcases List.mem_cons.mp issued with same | member
              · obtain ⟨rfl, rfl⟩ := IdEvent.issued.inj same
                exact ⟨value, by simp only [firstIssue, older, Option.none_or, if_true]⟩
              · obtain ⟨old, found⟩ := ih member
                rw [older] at found
                cases found

theorem firstIssue_eq_none (absent : ∀ value, .issued id value ∉ history) :
    firstIssue history id = none := by
  cases found : firstIssue history id with
  | none => rfl
  | some value => exact (absent value (firstIssue_mem found)).elim

/-- An identifier that was never retired has been issued once, so the oldest
issue is the only one. -/
theorem WellFormed.firstIssue_of_kept (wellFormed : WellFormed history)
    (issued : .issued id value ∈ history) (kept : .retired id ∉ history) :
    firstIssue history id = some value := by
  induction wellFormed with
  | nil => cases issued
  | @issued earlier other wf free new ih =>
      have keptEarlier : .retired id ∉ earlier := fun member => kept (List.mem_cons_of_mem _ member)
      rcases List.mem_cons.mp issued with same | older
      · obtain ⟨rfl, rfl⟩ := IdEvent.issued.inj same
        have first : firstIssue earlier id = none :=
          firstIssue_eq_none fun old member => (live_or_retired member).elim free keptEarlier
        simp only [firstIssue, first, Option.none_or, if_true]
      · simp only [firstIssue, ih older keptEarlier, Option.some_or]
  | @retired earlier other wf known ih =>
      have older := (List.mem_cons.mp issued).resolve_left (by simp)
      exact ih older (fun member => kept (List.mem_cons_of_mem _ member))

/-- Under the condition, a retired identifier always reads as NULL. -/
theorem RetiresOnlyNull.firstIssue_null (clean : RetiresOnlyNull history)
    (wellFormed : WellFormed history) (retired : .retired id ∈ history) :
    firstIssue history id = some none := by
  obtain ⟨value, issued⟩ := wellFormed.known retired
  obtain ⟨old, found⟩ := firstIssue_exists issued
  cases old with
  | none => exact found
  | some real => exact (clean id retired real (firstIssue_mem found)).elim

/-- Retiring an identifier keeps the readings equal exactly when it was only
ever issued for NULL. -/
theorem consistent_retired (wellFormed : WellFormed (.retired id :: history))
    (clean : RetiresOnlyNull history) (consistent : Consistent history) :
    Consistent (.retired id :: history) ↔ RetiresOnlyNull (.retired id :: history) := by
  have earlier : WellFormed history := by cases wellFormed; assumption
  constructor
  · intro after other retired value issued
    have older := (List.mem_cons.mp issued).resolve_left (by simp)
    by_cases old : .retired other ∈ history
    · exact clean other old value older
    · have same : other = id := by
        rcases List.mem_cons.mp retired with same | member
        · exact IdEvent.retired.inj same
        · exact (old member).elim
      subst same
      have read := after other
      simp only [firstValue, firstIssue, lastValue, if_true,
        earlier.firstIssue_of_kept older old, Option.join_some] at read
      cases read
  · intro clean' other
    by_cases same : id = other
    · subst same
      have read := clean'.firstIssue_null wellFormed List.mem_cons_self
      simp only [firstValue, read, lastValue, if_true, Option.join_some]
    · have before := consistent other
      simpa only [firstValue, firstIssue, lastValue, if_neg same] using before

/-- Issuing a free identifier keeps the readings equal exactly when the
identifier is new or the value is NULL. -/
theorem consistent_issued (wellFormed : WellFormed (.issued id value :: history))
    (clean : RetiresOnlyNull history) (consistent : Consistent history) :
    Consistent (.issued id value :: history) ↔ RetiresOnlyNull (.issued id value :: history) := by
  obtain ⟨earlier, free⟩ : WellFormed history ∧ ¬ Live history id := by
    cases wellFormed
    exact ⟨by assumption, by assumption⟩
  constructor
  · intro after other retired real issued
    have before := (List.mem_cons.mp retired).resolve_left (by simp)
    rcases List.mem_cons.mp issued with same | older
    · obtain ⟨rfl, rfl⟩ := IdEvent.issued.inj same
      have read := after other
      simp only [firstValue, firstIssue, lastValue, if_true,
        clean.firstIssue_null earlier before, Option.some_or, Option.join_some] at read
      cases read
    · exact clean other before real older
  · intro clean' other
    by_cases same : id = other
    · subst same
      cases found : firstIssue history id with
      | none => simp only [firstValue, firstIssue, found, lastValue, if_true,
          Option.none_or, Option.join_some]
      | some old =>
          have retired := (live_or_retired (firstIssue_mem found)).resolve_left free
          have null := clean.firstIssue_null earlier retired
          simp only [firstValue, firstIssue, null, lastValue, if_true, Option.some_or, Option.join_some]
          cases value with
          | none => rfl
          | some real =>
              exact (clean' id (List.mem_cons_of_mem _ retired) real List.mem_cons_self).elim
    · have before := consistent other
      simpa only [firstValue, firstIssue, lastValue, if_neg same, Option.or_none] using before

end IdHistory

end Rteipc.Data
