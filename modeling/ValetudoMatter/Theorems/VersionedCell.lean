import ValetudoMatter.Lib.Lts
import ValetudoMatter.Handlers

/-!
# A cell that counts its changes

The value, what the setters return and what they notify is as it should be for every sequence of calls. The version is not:
`replace_notify` is layered on `replace`, which has counted the change, and counts it again.
-/

namespace ValetudoMatter

/-- A call of one of the four setters. -/
inductive CellCall (α : Type) where
  | set (value : α)
  | setNotify (value : α) (ctx : OperationContext)
  | replace (value : α)
  | replaceNotify (value : α) (ctx : OperationContext)
  deriving DecidableEq, Repr

namespace CellCall

variable {α : Type}

/-- The value that is written. -/
def value : CellCall α → α
  | .set v => v
  | .setNotify v _ => v
  | .replace v => v
  | .replaceNotify v _ => v

/-- The setter gives the value it has replaced. -/
def replaces : CellCall α → Bool
  | .set _ => false
  | .setNotify _ _ => false
  | .replace _ => true
  | .replaceNotify _ _ => true

/-- The one notification that the setter has for a change. -/
def notification : CellCall α → List Notification
  | .set _ => []
  | .setNotify _ ctx => ctx.notifyOwnClusterChanged
  | .replace _ => []
  | .replaceNotify _ ctx => ctx.notifyOwnClusterChanged

/-- How many calls of `replace_notify` write another value than the one before them. -/
def replaceNotifyChanges [DecidableEq α] (held : α) : List (CellCall α) → Nat
  | [] => 0
  | .set v :: ls => replaceNotifyChanges v ls
  | .setNotify v _ :: ls => replaceNotifyChanges v ls
  | .replace v :: ls => replaceNotifyChanges v ls
  | .replaceNotify v _ :: ls => (if v ≠ held then 1 else 0) + replaceNotifyChanges v ls

end CellCall

/-- What a call gives: the value that is returned, and the notifications that are issued. -/
structure CellOut (α : Type) where
  returned : Option α
  notified : List Notification
  deriving DecidableEq, Repr

/-- A call, with the cell before and after it. -/
abbrev CellStep (α : Type) : Type := Lts.Transition (VersionedCell α) (CellCall α) (CellOut α)

namespace VersionedCell

variable {α : Type} [DecidableEq α]

/-- One call. -/
def call (c : VersionedCell α) : CellCall α → VersionedCell α × CellOut α
  | .set v => (c.set v, ⟨none, []⟩)
  | .setNotify v ctx => ((c.setNotify v ctx).1, ⟨none, (c.setNotify v ctx).2⟩)
  | .replace v => ((c.replace v).2, ⟨some (c.replace v).1, []⟩)
  | .replaceNotify v ctx =>
    ((c.replaceNotify v ctx).2.1, ⟨some (c.replaceNotify v ctx).1, (c.replaceNotify v ctx).2.2⟩)

/-- A sequence of calls, and the cell after it. -/
def calls (c : VersionedCell α) : List (CellCall α) → List (CellStep α) × VersionedCell α
  | [] => ([], c)
  | l :: ls =>
    let (c', out) := c.call l
    let (steps, c'') := c'.calls ls
    (⟨c, l, out, c'⟩ :: steps, c'')

end VersionedCell

/-- A call writes another value than the one held. -/
def CellStep.Changes {α : Type} (t : CellStep α) : Prop := t.label.value ≠ t.before.inner

section

variable {α : Type} [DecidableEq α]

instance (t : CellStep α) : Decidable t.Changes := inferInstanceAs (Decidable (t.label.value ≠ t.before.inner))

/-- A cell counts its changes over a sequence of calls: it holds the value written last; what is replaced is returned; the
version has advanced by the number of calls that change the value, modulo its size; and each of these whose setter notifies has
issued one notification, and no other call has issued any. -/
structure CountsChanges (c : VersionedCell α) (calls : List (CellCall α)) : Prop where
  get : (c.calls calls).2.get = (calls.map CellCall.value).getLastD c.get
  returned : ∀ t ∈ (c.calls calls).1, t.out.returned = if t.label.replaces then some t.before.get else none
  dataver : (c.calls calls).2.dataver = c.dataver + UInt32.ofNat ((c.calls calls).1.countP fun t => t.Changes)
  notified : ∀ t ∈ (c.calls calls).1, t.out.notified = if t.Changes then t.label.notification else []

/-! ## One call -/

namespace VersionedCell

/-- A call, as a step. -/
def step (c : VersionedCell α) (l : CellCall α) : CellStep α := ⟨c, l, (c.call l).2, (c.call l).1⟩

theorem calls_cons (c : VersionedCell α) (l : CellCall α) (ls : List (CellCall α)) :
    c.calls (l :: ls) = (c.step l :: ((c.call l).1.calls ls).1, ((c.call l).1.calls ls).2) := rfl

theorem call_inner (c : VersionedCell α) (l : CellCall α) : (c.call l).1.inner = l.value := by
  cases l with
  | set v => exact set_inner c v
  | setNotify v ctx => exact setNotify_inner c v ctx
  | replace v => exact replace_inner c v
  | replaceNotify v ctx => exact replaceNotify_inner c v ctx

theorem call_returned (c : VersionedCell α) (l : CellCall α) :
    (c.call l).2.returned = if l.replaces then some c.inner else none := by
  cases l with
  | set v => rfl
  | setNotify v ctx => rfl
  | replace v => rfl
  | replaceNotify v ctx => simp [call, CellCall.replaces]

theorem call_notified (c : VersionedCell α) (l : CellCall α) :
    (c.call l).2.notified = if (c.step l).Changes then l.notification else [] := by
  cases l with
  | set v => exact (ite_self _).symm
  | setNotify v ctx => exact setNotify_notified c v ctx
  | replace v => exact (ite_self _).symm
  | replaceNotify v ctx =>
    have hchanges : (c.step (.replaceNotify v ctx)).Changes ↔ c.inner ≠ v := ne_comm
    rw [if_congr hchanges rfl rfl]
    exact replaceNotify_notified c v ctx

/-- A change advances the version by one, and by one more if `replace_notify` makes it. -/
theorem call_dataver (c : VersionedCell α) (l : CellCall α) :
    (c.call l).1.dataver = c.dataver + UInt32.ofNat (if (c.step l).Changes then 1 else 0) +
      UInt32.ofNat (CellCall.replaceNotifyChanges c.inner [l]) := by
  cases l with
  | set v => exact (set_dataver c v).trans (UInt32.add_zero _).symm
  | setNotify v ctx => exact (setNotify_dataver c v ctx).trans (UInt32.add_zero _).symm
  | replace v => exact (replace_dataver c v).trans (UInt32.add_zero _).symm
  | replaceNotify v ctx => exact replaceNotify_dataver c v ctx

/-! ## A sequence of calls -/

theorem calls_inner (c : VersionedCell α) (ls : List (CellCall α)) :
    (c.calls ls).2.inner = (ls.map CellCall.value).getLastD c.inner := by
  induction ls generalizing c with
  | nil => rfl
  | cons l ls ih =>
    rw [calls_cons, ih, call_inner, List.map_cons, List.getLastD_cons]

/-- Every step of a sequence of calls is a call. -/
theorem eq_step_of_mem_calls {c : VersionedCell α} {ls : List (CellCall α)} {t : CellStep α} (ht : t ∈ (c.calls ls).1) :
    ∃ c' l, t = step c' l := by
  induction ls generalizing c with
  | nil => simp [calls] at ht
  | cons l ls ih =>
    rw [calls_cons] at ht
    rcases List.mem_cons.mp ht with rfl | ht
    · exact ⟨c, l, rfl⟩
    · exact ih ht

/-- The first call, and the rest from the value it leaves. -/
theorem replaceNotifyChanges_cons (held : α) (l : CellCall α) (ls : List (CellCall α)) :
    CellCall.replaceNotifyChanges held (l :: ls) =
      CellCall.replaceNotifyChanges held [l] + CellCall.replaceNotifyChanges l.value ls := by
  cases l with
  | set v => simp [CellCall.replaceNotifyChanges, CellCall.value]
  | setNotify v ctx => simp [CellCall.replaceNotifyChanges, CellCall.value]
  | replace v => simp [CellCall.replaceNotifyChanges, CellCall.value]
  | replaceNotify v ctx => simp [CellCall.replaceNotifyChanges, CellCall.value]

/-- The version advances by the number of changes, and once more by the number of those that `replace_notify` makes. -/
theorem calls_dataver (c : VersionedCell α) (ls : List (CellCall α)) :
    (c.calls ls).2.dataver = c.dataver + UInt32.ofNat ((c.calls ls).1.countP fun t => t.Changes) +
      UInt32.ofNat (CellCall.replaceNotifyChanges c.inner ls) := by
  induction ls generalizing c with
  | nil => simp [calls, CellCall.replaceNotifyChanges]
  | cons l ls ih =>
    have hcount : (c.calls (l :: ls)).1.countP (fun t => t.Changes) =
        (if (c.step l).Changes then 1 else 0) + ((c.call l).1.calls ls).1.countP (fun t => t.Changes) := by
      rw [calls_cons, List.countP_cons, Nat.add_comm]
      simp
    rw [hcount, replaceNotifyChanges_cons, calls_cons, UInt32.ofNat_add, UInt32.ofNat_add]
    show ((c.call l).1.calls ls).2.dataver = _
    rw [ih, call_inner, call_dataver]
    ac_rfl

end VersionedCell

/-! ## The theorem -/

/-- A cell counts its changes over a sequence of calls if and only if the changes that `replace_notify` makes are a multiple of
the size of the version. -/
theorem counts_changes_iff (c : VersionedCell α) (calls : List (CellCall α)) :
    CountsChanges c calls ↔ CellCall.replaceNotifyChanges c.get calls % UInt32.size = 0 := by
  have hver : (c.calls calls).2.dataver = c.dataver + UInt32.ofNat ((c.calls calls).1.countP fun t => t.Changes) ↔
      CellCall.replaceNotifyChanges c.get calls % UInt32.size = 0 := by
    rw [VersionedCell.calls_dataver, UInt32.add_eq_left, UInt32.ofNat_eq_iff_mod_eq_toNat]
    rfl
  constructor
  · intro h
    exact hver.mp h.dataver
  · intro h
    refine ⟨VersionedCell.calls_inner c calls, ?_, hver.mpr h, ?_⟩
    · intro t ht
      obtain ⟨c', l, rfl⟩ := VersionedCell.eq_step_of_mem_calls ht
      exact VersionedCell.call_returned c' l
    · intro t ht
      obtain ⟨c', l, rfl⟩ := VersionedCell.eq_step_of_mem_calls ht
      exact VersionedCell.call_notified c' l

end

/-- Identifying with ten seconds makes one change, from version 41 to 43. -/
theorem replace_notify_counts_twice :
    ¬ CountsChanges (VersionedCell.new 0 41 : VersionedCell UInt16) [.replaceNotify 10 ⟨1, .identify⟩] := by
  intro h
  exact absurd h.dataver (by decide)

end ValetudoMatter
