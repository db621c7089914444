import Mathlib.Logic.Basic

namespace Rteipc.Data

/-! Nodes that each name at most one partner.

A hub may be the partner of many nodes and names none itself; between two
others partnership is mutual.  Connecting two nodes sets each side on its own,
so it keeps partnerships mutual only where neither side leaves a partner behind.
-/

variable {α : Type*}

structure Node (α : Type*) where
  hub : Bool
  partner : Option α

abbrev Partners (α : Type*) := α → Option (Node α)

def Node.alone (node : Node α) : Node α := { node with partner := none }

structure Mutual (partners : Partners α) : Prop where
  present : ∀ a node b, partners a = some node → node.partner = some b → (partners b).isSome
  hub : ∀ a node, partners a = some node → node.hub → node.partner = none
  returned : ∀ a node b other, partners a = some node → node.partner = some b →
    partners b = some other → ¬other.hub → other.partner = some a

/-- Every node is in the relation to the partner it names. -/
def Respects (relation : α → α → Prop) (partners : Partners α) : Prop :=
  ∀ a node b, partners a = some node → node.partner = some b → relation a b

theorem Respects.mono {relation weaker : α → α → Prop} {partners : Partners α} (respects : Respects relation partners)
    (implies : ∀ a b, relation a b → weaker a b) : Respects weaker partners :=
  fun a node b found names => implies a b (respects a node b found names)

variable [DecidableEq α]

/-- What forgetting `a` does to `b`: a hub is forgotten by all who name it,
another node and its partner forget whom they name. -/
def Node.forgets (self : Node α) (a b : α) (node : Node α) : Bool :=
  if self.hub then decide (b ≠ a ∧ node.partner = some a)
  else decide (self.partner.isSome ∧ (b = a ∨ self.partner = some b))

namespace Partners

def add (partners : Partners α) (a : α) (hub : Bool) : Partners α :=
  fun b => if b = a then some ⟨hub, none⟩ else partners b

def forget (partners : Partners α) (a : α) : Partners α :=
  fun b =>
    match partners a with
    | none => partners b
    | some self => (partners b).map fun node => if self.forgets a b node then node.alone else node

def remove (partners : Partners α) (a : α) : Partners α :=
  fun b => if b = a then none else partners.forget a b

/-- One side of a connection. -/
def name (partners : Partners α) (a b : α) : Partners α :=
  fun c => (partners c).map fun node => if c = a ∧ ¬node.hub then { node with partner := some b } else node

def connect (partners : Partners α) (a b : α) : Partners α := (partners.name a b).name b a

/-- Any partner of `a` that is not a hub is `b`. -/
def Free (partners : Partners α) (a b : α) : Prop :=
  ∀ node c other, partners a = some node → node.partner = some c → partners c = some other → ¬other.hub → c = b

def Forgets (partners : Partners α) (a b : α) (node : Node α) : Prop :=
  ∃ self, partners a = some self ∧
    (self.hub ∧ b ≠ a ∧ node.partner = some a ∨ ¬self.hub ∧ self.partner.isSome ∧ (b = a ∨ self.partner = some b))

variable {partners : Partners α} {a b c : α} {node after : Node α}

theorem forgets_iff {self : Node α} (found : partners a = some self) :
    self.forgets a b node = true ↔ Forgets partners a b node := by
  unfold Node.forgets Forgets
  simp only [found, Option.some.injEq, exists_eq_left']
  split
  next isHub => simp [isHub]
  next raw => simp [raw]

theorem forget_of_some {self : Node α} (found : partners a = some self) :
    partners.forget a b = (partners b).map fun node => if self.forgets a b node then node.alone else node := by
  simp only [Partners.forget, found]

theorem forget_some (found : partners.forget a b = some after) :
    ∃ node, partners b = some node ∧ after.hub = node.hub ∧
      (Forgets partners a b node ∧ after = node.alone ∨ ¬Forgets partners a b node ∧ after = node) := by
  unfold Partners.forget at found
  split at found
  next absent =>
    refine ⟨after, found, rfl, .inr ⟨fun forgotten => ?_, rfl⟩⟩
    obtain ⟨self, present, -⟩ := forgotten
    exact nomatch absent.symm.trans present
  next self present =>
    obtain ⟨node, before, rfl⟩ := Option.map_eq_some_iff.mp found
    refine ⟨node, before, ?_⟩
    split
    next forgotten => exact ⟨rfl, .inl ⟨(forgets_iff present).mp forgotten, rfl⟩⟩
    next kept => exact ⟨rfl, .inr ⟨fun forgotten => kept ((forgets_iff present).mpr forgotten), rfl⟩⟩

theorem forget_isSome : (partners.forget a b).isSome = (partners b).isSome := by
  unfold Partners.forget
  split
  next => rfl
  next => exact Option.isSome_map

theorem forget_partner (found : partners.forget a b = some after) (names : after.partner = some c) :
    partners b = some after ∧ ¬Forgets partners a b after := by
  obtain ⟨node, before, -, ⟨-, rfl⟩ | ⟨kept, rfl⟩⟩ := forget_some found
  · nomatch names
  · exact ⟨before, kept⟩

end Partners

open Partners

variable {partners : Partners α} {a b : α} {node : Node α}

/-! ## What keeps partnership mutual -/

theorem Mutual.add (good : Mutual partners) (fresh : partners a = none) (hub : Bool) :
    Mutual (partners.add a hub) := by
  have old : ∀ {b node}, partners.add a hub b = some node → node.partner.isSome → partners b = some node := by
    intro b node found names
    unfold Partners.add at found
    split at found
    next =>
      obtain rfl := Option.some.inj found
      nomatch names
    next => exact found
  have kept : ∀ {b node}, partners b = some node → partners.add a hub b = some node := by
    intro b node found
    refine (if_neg fun same => ?_).trans found
    rw [same, fresh] at found
    nomatch found
  refine ⟨?_, ?_, ?_⟩
  · intro b node c found names
    have before := good.present b node c (old found (Option.isSome_of_eq_some names)) names
    obtain ⟨other, there⟩ := Option.isSome_iff_exists.mp before
    exact Option.isSome_of_eq_some (kept there)
  · intro b node found isHub
    cases names : node.partner with
    | none => rfl
    | some c =>
        have none := good.hub b node (old found (Option.isSome_of_eq_some names)) isHub
        exact (nomatch names.symm.trans none)
  · intro b node c other found names there raw
    have before := old found (Option.isSome_of_eq_some names)
    obtain ⟨peer, peerThere⟩ := Option.isSome_iff_exists.mp (good.present b node c before names)
    obtain rfl := Option.some.inj ((kept peerThere).symm.trans there)
    exact good.returned b node c peer before names peerThere raw

theorem Mutual.forget (good : Mutual partners) (a : α) : Mutual (partners.forget a) := by
  refine ⟨?_, ?_, ?_⟩
  · intro b node c found names
    rw [forget_isSome]
    exact good.present b node c (forget_partner found names).1 names
  · intro b node found isHub
    cases names : node.partner with
    | none => rfl
    | some c =>
        have none := good.hub b node (forget_partner found names).1 isHub
        exact (nomatch names.symm.trans none)
  · intro b node c other found names there raw
    obtain ⟨before, kept⟩ := forget_partner found names
    obtain ⟨peer, peerBefore, sameHub, ⟨forgotten, rfl⟩ | ⟨-, rfl⟩⟩ := forget_some there
    · have back := good.returned b node c peer before names peerBefore raw
      refine (kept ?_).elim
      obtain ⟨self, selfThere, ⟨isHub, differ, namesSelf⟩ | ⟨notHub, hasPartner, sides⟩⟩ := forgotten
      · obtain rfl := Option.some.inj (back.symm.trans namesSelf)
        have none := good.hub b self selfThere isHub
        obtain rfl := Option.some.inj (selfThere.symm.trans before)
        exact (nomatch names.symm.trans none)
      · refine ⟨self, selfThere, .inr ⟨notHub, hasPartner, ?_⟩⟩
        obtain rfl | namesC := sides
        · obtain rfl := Option.some.inj (selfThere.symm.trans peerBefore)
          exact .inr back
        · have selfBack := good.returned a self c peer selfThere namesC peerBefore raw
          exact .inl (Option.some.inj (back.symm.trans selfBack))
    · exact good.returned b node c other before names peerBefore raw

theorem Mutual.remove (good : Mutual partners) (found : partners a = some node) (apart : Respects (· ≠ ·) partners) :
    Mutual (partners.remove a) := by
  have forgotten := good.forget a
  have lonely : ∀ {b after}, partners.forget a b = some after → after.partner ≠ some a := by
    intro b after there names
    obtain ⟨before, kept⟩ := forget_partner there names
    refine kept ⟨node, found, ?_⟩
    have differ : b ≠ a := by
      intro same
      subst same
      exact apart b after b before names rfl
    by_cases isHub : node.hub
    · exact .inl ⟨isHub, differ, names⟩
    · have back := good.returned b after a node before names found isHub
      exact .inr ⟨isHub, Option.isSome_of_eq_some back, .inr back⟩
  have old : ∀ {b after}, partners.remove a b = some after → b ≠ a ∧ partners.forget a b = some after := by
    intro b after there
    unfold Partners.remove at there
    split at there
    next => nomatch there
    next differ => exact ⟨differ, there⟩
  refine ⟨?_, ?_, ?_⟩
  · intro b after c there names
    have before := (old there).2
    have present := forgotten.present b after c before names
    unfold Partners.remove
    rw [if_neg, present]
    intro same
    subst same
    exact lonely before names
  · intro b after there
    exact forgotten.hub b after (old there).2
  · intro b after c other there names peer
    exact forgotten.returned b after c other (old there).2 names (old peer).2

/-! ## Connecting two nodes -/

theorem connect_of_ne {c : α} (notLeft : c ≠ a) (notRight : c ≠ b) : partners.connect a b c = partners c := by
  simp only [connect, Partners.name, notLeft, notRight, false_and, if_false, Option.map_id']

theorem connect_left (differ : a ≠ b) : partners.connect a b a =
    (partners a).map fun node => if node.hub then node else { node with partner := some b } := by
  simp only [connect, Partners.name, differ, false_and, if_false, Option.map_id', true_and]
  congr 1
  funext node
  split <;> simp_all

theorem connect_comm (differ : a ≠ b) : partners.connect a b = partners.connect b a := by
  funext c
  unfold connect Partners.name
  cases partners c with
  | none => rfl
  | some node =>
      by_cases left : c = a <;> by_cases right : c = b <;> simp_all

theorem connect_some {c : α} {after : Node α} (differ : a ≠ b) (found : partners.connect a b c = some after) :
    ∃ before, partners c = some before ∧ after.hub = before.hub ∧
      (¬before.hub ∧ c = a ∧ after.partner = some b ∨ ¬before.hub ∧ c = b ∧ after.partner = some a ∨
        (before.hub ∨ c ≠ a ∧ c ≠ b) ∧ after = before) := by
  by_cases left : c = a
  · subst left
    rw [connect_left differ] at found
    obtain ⟨before, there, rfl⟩ := Option.map_eq_some_iff.mp found
    refine ⟨before, there, ?_⟩
    split
    next isHub => exact ⟨rfl, .inr (.inr ⟨.inl isHub, rfl⟩)⟩
    next raw => exact ⟨rfl, .inl ⟨raw, rfl, rfl⟩⟩
  · by_cases right : c = b
    · subst right
      rw [connect_comm differ, connect_left differ.symm] at found
      obtain ⟨before, there, rfl⟩ := Option.map_eq_some_iff.mp found
      refine ⟨before, there, ?_⟩
      split
      next isHub => exact ⟨rfl, .inr (.inr ⟨.inl isHub, rfl⟩)⟩
      next raw => exact ⟨rfl, .inr (.inl ⟨raw, rfl, rfl⟩)⟩
    · rw [connect_of_ne left right] at found
      exact ⟨after, found, rfl, .inr (.inr ⟨.inr ⟨left, right⟩, rfl⟩)⟩

theorem Mutual.connect (good : Mutual partners) {left right : Node α} (leftThere : partners a = some left)
    (rightThere : partners b = some right) (differ : a ≠ b) (leftFree : Free partners a b)
    (rightFree : Free partners b a) : Mutual (partners.connect a b) := by
  have present : ∀ {c node}, partners c = some node → (partners.connect a b c).isSome := by
    intro c node there
    simp only [Partners.connect, Partners.name, Option.isSome_map, there, Option.isSome_some]
  refine ⟨?_, ?_, ?_⟩
  · intro c node d found names
    obtain ⟨before, there, -, ⟨-, -, namesB⟩ | ⟨-, -, namesA⟩ | ⟨-, rfl⟩⟩ := connect_some differ found
    · obtain rfl := Option.some.inj (namesB.symm.trans names)
      exact present rightThere
    · obtain rfl := Option.some.inj (namesA.symm.trans names)
      exact present leftThere
    · obtain ⟨peer, peerThere⟩ := Option.isSome_iff_exists.mp (good.present c node d there names)
      exact present peerThere
  · intro c node found isHub
    obtain ⟨before, there, sameHub, ⟨raw, -⟩ | ⟨raw, -⟩ | ⟨-, rfl⟩⟩ := connect_some differ found
    · exact (raw (sameHub ▸ isHub)).elim
    · exact (raw (sameHub ▸ isHub)).elim
    · exact good.hub c node there isHub
  · intro c node d other found names peer peerRaw
    obtain ⟨peerBefore, peerThere, peerHub, peerCases⟩ := connect_some differ peer
    have peerBeforeRaw : ¬peerBefore.hub := peerHub ▸ peerRaw
    obtain ⟨before, there, sameHub, ⟨raw, rfl, namesB⟩ | ⟨raw, rfl, namesA⟩ | ⟨apart, rfl⟩⟩ :=
      connect_some differ found
    · obtain rfl := Option.some.inj (namesB.symm.trans names)
      obtain ⟨-, same, -⟩ | ⟨-, -, back⟩ | ⟨isHub | ⟨-, away⟩, -⟩ := peerCases
      · exact (differ same.symm).elim
      · exact back
      · exact (peerBeforeRaw isHub).elim
      · exact (away rfl).elim
    · obtain rfl := Option.some.inj (namesA.symm.trans names)
      obtain ⟨-, -, back⟩ | ⟨-, same, -⟩ | ⟨isHub | ⟨away, -⟩, -⟩ := peerCases
      · exact back
      · exact (differ same).elim
      · exact (peerBeforeRaw isHub).elim
      · exact (away rfl).elim
    · have raw : ¬node.hub := fun isHub => by
        have none := good.hub c node there isHub
        nomatch names.symm.trans none
      obtain isHub | ⟨notA, notB⟩ := apart
      · exact (raw isHub).elim
      have back := good.returned c node d peerBefore there names peerThere peerBeforeRaw
      obtain ⟨-, rfl, -⟩ | ⟨-, rfl, -⟩ | ⟨-, rfl⟩ := peerCases
      · exact (notB (leftFree peerBefore c node peerThere back there raw)).elim
      · exact (notA (rightFree peerBefore c node peerThere back there raw)).elim
      · exact back

/-- Exactly when neither node leaves another partner behind, connecting them
keeps partnerships mutual. -/
theorem mutual_connect_iff (good : Mutual partners) (apart : Respects (· ≠ ·) partners) {left right : Node α}
    (leftThere : partners a = some left) (rightThere : partners b = some right) (differ : a ≠ b) :
    Mutual (partners.connect a b) ↔ Free partners a b ∧ Free partners b a := by
  have only : ∀ {a b : α} {left right : Node α}, partners a = some left → partners b = some right → a ≠ b →
      Mutual (partners.connect a b) → Free partners a b := by
    intro a b left right leftThere rightThere differ connected node c other found names there raw
    refine Classical.byContradiction fun notB => ?_
    obtain rfl := Option.some.inj (leftThere.symm.trans found)
    have notA : c ≠ a := by
      intro same
      subst same
      exact apart c left c found names rfl
    have leftRaw : ¬left.hub := fun isHub => by
      have none := good.hub a left found isHub
      nomatch names.symm.trans none
    have back := good.returned a left c other found names there raw
    have otherAfter : partners.connect a b c = some other := (connect_of_ne notA notB).trans there
    have leftAfter : partners.connect a b a = some { left with partner := some b } := by
      rw [connect_left differ, found, Option.map_some, if_neg leftRaw]
    have same := connected.returned c other a _ otherAfter back leftAfter leftRaw
    exact notB (Option.some.inj same).symm
  refine ⟨fun connected => ?_, fun free => ?_⟩
  · refine ⟨only leftThere rightThere differ connected, only rightThere leftThere differ.symm ?_⟩
    rw [connect_comm differ.symm]
    exact connected
  · exact good.connect leftThere rightThere differ free.1 free.2

/-! ## Relations between a node and its partner -/

variable {relation : α → α → Prop}

theorem Respects.add (respects : Respects relation partners) (a : α) (hub : Bool) :
    Respects relation (partners.add a hub) := by
  intro b after c found names
  unfold Partners.add at found
  split at found
  next =>
    obtain rfl := Option.some.inj found
    nomatch names
  next => exact respects b after c found names

theorem Respects.forget (respects : Respects relation partners) (a : α) : Respects relation (partners.forget a) :=
  fun b after c found names => respects b after c (forget_partner found names).1 names

theorem Respects.remove (respects : Respects relation partners) (a : α) : Respects relation (partners.remove a) := by
  intro b after c found names
  unfold Partners.remove at found
  split at found
  next => nomatch found
  next => exact respects.forget a b after c found names

theorem Respects.connect (respects : Respects relation partners) (differ : a ≠ b) (left : relation a b)
    (right : relation b a) : Respects relation (partners.connect a b) := by
  intro c after d found names
  obtain ⟨before, there, -, ⟨-, rfl, namesB⟩ | ⟨-, rfl, namesA⟩ | ⟨-, rfl⟩⟩ := connect_some differ found
  · obtain rfl := Option.some.inj (namesB.symm.trans names)
    exact left
  · obtain rfl := Option.some.inj (namesA.symm.trans names)
    exact right
  · exact respects c after d there names

/-! ## Hubs alone -/

/-- No hub names a partner, whatever else the partners have come to. -/
def HubsAlone (partners : Partners α) : Prop := ∀ a node, partners a = some node → node.hub → node.partner = none

theorem HubsAlone.add (hubs : HubsAlone partners) (a : α) (hub : Bool) : HubsAlone (partners.add a hub) := by
  intro b node found isHub
  unfold Partners.add at found
  split at found
  next =>
    cases found
    rfl
  next => exact hubs b node found isHub

theorem HubsAlone.forget (hubs : HubsAlone partners) (a : α) : HubsAlone (partners.forget a) := by
  intro b node found isHub
  cases names : node.partner with
  | none => rfl
  | some c =>
      have none := hubs b node (forget_partner found names).1 isHub
      nomatch names.symm.trans none

theorem HubsAlone.remove (hubs : HubsAlone partners) (a : α) : HubsAlone (partners.remove a) := by
  intro b node found isHub
  unfold Partners.remove at found
  split at found
  next => nomatch found
  next => exact hubs.forget a b node found isHub

theorem HubsAlone.connect (hubs : HubsAlone partners) (differ : a ≠ b) : HubsAlone (partners.connect a b) := by
  intro c node found isHub
  obtain ⟨before, there, sameHub, ⟨raw, -⟩ | ⟨raw, -⟩ | ⟨-, rfl⟩⟩ := connect_some differ found
  · exact (raw (sameHub ▸ isHub)).elim
  · exact (raw (sameHub ▸ isHub)).elim
  · exact hubs c node there isHub

end Rteipc.Data
