import Mathlib.Data.Finset.Insert
import Mathlib.Data.Finset.Erase

/-!
# A resource behind two fields

An object that opens a resource is kept in a field, and a second object that was given it in another.  `Held` is the
two fields, with the objects that know their resource and the resources that are open; a resource has the number of
the object that opened it.  What is open is owned when the fields lead to it and to nothing else (`Held.Owned`).

Filling the fields anew (`Held.opens`) keeps the ownership exactly when nothing was open (`Held.opens_owned`), a first
object that fails to open is harmless unless it leaves something open (`Held.fails_owned`), and a release of what the
first field leads to leaves nothing open (`Held.closed_opened`, `Held.opened_empty`).
-/

namespace CleanBackend

structure Held where
  /-- the object in the first field -/
  owner : Option Nat
  /-- the object that the one in the second field was given -/
  user : Option Nat
  /-- the objects that refer to what they have opened -/
  connected : Finset Nat
  /-- what was opened and not closed -/
  opened : Finset Nat
  /-- the next object -/
  fresh : Nat

namespace Held

def empty : Held := ⟨none, none, ∅, ∅, 0⟩

/-- A new object takes the first field. -/
def construct (h : Held) : Held := { h with owner := some h.fresh, fresh := h.fresh + 1 }

/-- An object has opened its resource and refers to it. -/
def connect (h : Held) (o : Nat) : Held := { h with connected := insert o h.connected, opened := insert o h.opened }

/-- An object has failed to open its resource, which is left open all the same. -/
def leave (h : Held) (o : Nat) (leaves : Bool) : Held :=
  { h with opened := if leaves then insert o h.opened else h.opened }

/-- What is in the first field is given to a new object in the second. -/
def handOn (h : Held) : Held := { h with user := h.owner }

/-- A new object in the first field opens its resource, and is given to one in the second. -/
def opens (h : Held) : Held := (h.construct.connect h.fresh).handOn

/-- A new object in the first field fails to open its resource. -/
def fails (h : Held) (leaves : Bool) : Held := h.construct.leave h.fresh leaves

/-- The second field is cleared. -/
def dropUser (h : Held) : Held := { h with user := none }

/-- An object has closed what it refers to. -/
def closed (h : Held) (o : Nat) : Held := { h with connected := h.connected.erase o, opened := h.opened.erase o }

/-- What the first field leads to is closed. -/
def close (h : Held) : Held :=
  match h.owner with
  | none => h
  | some o => if o ∈ h.connected then h.closed o else h

/-- Both fields are cleared. -/
def drop (h : Held) : Held := { h with owner := none, user := none }

/-- A new object is asked for or not, and succeeds or fails. -/
def attempt (h : Held) (asked succeeds leaves : Bool) : Held :=
  if asked then if succeeds then h.opens else h.fails leaves else h

/-- What is open is what the fields lead to. -/
def Owned (h : Held) : Prop := ∀ o, o ∈ h.opened ↔ (h.owner = some o ∨ h.user = some o) ∧ o ∈ h.connected

/-- The objects are old, and know only what is open; the second field leads to something open. -/
structure Sound (h : Held) : Prop where
  old : ∀ o ∈ h.opened, o < h.fresh
  connected : h.connected ⊆ h.opened
  user : ∀ o, h.user = some o → o ∈ h.connected

/-- The object in the first field was handed on once it was connected. -/
def HandedOn (h : Held) : Prop := ∀ o, h.owner = some o → o ∈ h.connected → h.user = some o

/-- The second field follows the first. -/
def Follows (h : Held) : Prop := ∀ o, h.user = some o → h.owner = some o

/-- An attempt opens only where nothing is open, and leaves nothing behind. -/
def Admits (h : Held) (asked succeeds leaves : Bool) : Prop :=
  asked = true → if succeeds then h.opened = ∅ else leaves = false

/-- What holds of the two fields whatever is open.  While their user is idle, what is connected was handed on; while
it is live, the second field follows the first; fields that are not wanted stay clear. -/
structure Fit (live wanted : Bool) (h : Held) : Prop where
  sound : h.Sound
  idle : live = false → h.HandedOn
  live : live = true → h.Follows
  clear : wanted = false → h.owner = none ∧ h.user = none

variable {h : Held}

theorem empty_sound : empty.Sound := ⟨by simp [empty], by simp [empty], by simp [empty]⟩

theorem Sound.not_connected (hs : h.Sound) : h.fresh ∉ h.connected := fun hm =>
  absurd (hs.old _ (hs.connected hm)) (Nat.lt_irrefl _)

/-! ### Opening -/

@[simp] theorem opens_owner : h.opens.owner = some h.fresh := rfl

@[simp] theorem opens_user : h.opens.user = some h.fresh := rfl

@[simp] theorem opens_connected : h.opens.connected = insert h.fresh h.connected := rfl

@[simp] theorem opens_opened : h.opens.opened = insert h.fresh h.opened := rfl

private theorem opens_sound (hs : h.Sound) : h.opens.Sound where
  old o ho := by
    rcases Finset.mem_insert.1 ho with rfl | ho
    · exact Nat.lt_succ_self _
    · exact Nat.lt_succ_of_lt (hs.old o ho)
  connected := Finset.insert_subset_insert _ hs.connected
  user o ho := by
    cases ho
    exact Finset.mem_insert_self _ _

private theorem fails_sound (hs : h.Sound) (leaves : Bool) : (h.fails leaves).Sound where
  old o ho := by
    have hcases : o = h.fresh ∨ o ∈ h.opened := by
      cases leaves with
      | true => exact Finset.mem_insert.1 ho
      | false => exact Or.inr ho
    rcases hcases with rfl | ho
    · exact Nat.lt_succ_self _
    · exact Nat.lt_succ_of_lt (hs.old o ho)
  connected := by
    cases leaves with
    | true => exact hs.connected.trans (Finset.subset_insert _ _)
    | false => exact hs.connected
  user := hs.user

private theorem opens_handedOn : h.opens.HandedOn := fun _ ho _ => ho

private theorem opens_follows : h.opens.Follows := fun _ ho => ho

private theorem fails_handedOn (hs : h.Sound) (leaves : Bool) : (h.fails leaves).HandedOn := by
  intro o ho hc
  cases ho
  exact absurd hc hs.not_connected

/-- New objects keep the ownership exactly when nothing was open. -/
theorem opens_owned (hs : h.Sound) : h.opens.Owned ↔ h.opened = ∅ := by
  constructor
  · intro ho
    refine Finset.eq_empty_of_forall_notMem fun o hm => ?_
    have hnew : o = h.fresh := by simpa [eq_comm] using ((ho o).1 (Finset.mem_insert_of_mem hm)).1
    exact absurd (hs.old o hm) (by omega)
  · intro hempty o
    have hconnected : h.connected = ∅ := Finset.subset_empty.1 (hempty ▸ hs.connected)
    simp [hempty, hconnected, eq_comm]

/-- A failure keeps it exactly when nothing is left open. -/
theorem fails_owned (hs : h.Sound) (hh : h.HandedOn) (ho : h.Owned) (leaves : Bool) :
    (h.fails leaves).Owned ↔ leaves = false := by
  cases leaves with
  | true =>
    refine iff_of_false (fun hf => ?_) (by decide)
    exact hs.not_connected ((hf h.fresh).1 (Finset.mem_insert_self _ _)).2
  | false =>
    refine iff_of_true (fun o => ?_) rfl
    show o ∈ h.opened ↔ (some h.fresh = some o ∨ h.user = some o) ∧ o ∈ h.connected
    rw [ho o]
    constructor
    · rintro ⟨hf | hf, hc⟩
      · exact ⟨Or.inr (hh o hf hc), hc⟩
      · exact ⟨Or.inr hf, hc⟩
    · rintro ⟨hf | hf, hc⟩
      · cases hf
        exact absurd hc hs.not_connected
      · exact ⟨Or.inr hf, hc⟩

theorem attempt_sound (hs : h.Sound) (asked succeeds leaves : Bool) : (h.attempt asked succeeds leaves).Sound := by
  cases asked with
  | false => exact hs
  | true =>
    cases succeeds with
    | true => exact opens_sound hs
    | false => exact fails_sound hs leaves

private theorem attempt_handedOn (hs : h.Sound) (hh : h.HandedOn) (asked succeeds leaves : Bool) :
    (h.attempt asked succeeds leaves).HandedOn := by
  cases asked with
  | false => exact hh
  | true =>
    cases succeeds with
    | true => exact opens_handedOn
    | false => exact fails_handedOn hs leaves

/-- An attempt keeps the ownership exactly where it is admitted. -/
theorem attempt_owned (hs : h.Sound) (hh : h.HandedOn) (ho : h.Owned) (asked succeeds leaves : Bool) :
    (h.attempt asked succeeds leaves).Owned ↔ h.Admits asked succeeds leaves := by
  cases asked with
  | false => exact iff_of_true ho (fun ha => absurd ha (by decide))
  | true =>
    cases succeeds with
    | true => exact (opens_owned hs).trans ⟨fun h _ => h, fun h => h rfl⟩
    | false => exact (fails_owned hs hh ho leaves).trans ⟨fun h _ => h, fun h => h rfl⟩

/-! ### Releasing -/

theorem dropUser_owned (hf : h.Follows) (ho : h.Owned) : h.dropUser.Owned := by
  intro o
  show o ∈ h.opened ↔ (h.owner = some o ∨ none = some o) ∧ o ∈ h.connected
  rw [ho o]
  constructor
  · rintro ⟨hu | hu, hc⟩
    · exact ⟨Or.inl hu, hc⟩
    · exact ⟨Or.inl (hf o hu), hc⟩
  · rintro ⟨hu | hu, hc⟩
    · exact ⟨Or.inl hu, hc⟩
    · cases hu

private theorem dropUser_sound (hs : h.Sound) : h.dropUser.Sound := ⟨hs.old, hs.connected, fun _ ho => by cases ho⟩

/-- Where the first field leads to nothing, nothing is open. -/
theorem opened_empty (hf : h.Follows) (ho : h.Owned) (hn : ∀ o, h.owner = some o → o ∉ h.connected) :
    h.opened = ∅ := by
  refine Finset.eq_empty_of_forall_notMem fun o hm => ?_
  obtain ⟨hu | hu, hc⟩ := (ho o).1 hm
  · exact hn o hu hc
  · exact hn o (hf o hu) hc

/-- What the first field leads to was all that was open. -/
theorem closed_opened (hf : h.Follows) (ho : h.Owned) {o : Nat} (hown : h.owner = some o) :
    (h.closed o).opened = ∅ := by
  refine Finset.eq_empty_of_forall_notMem fun q hq => ?_
  obtain ⟨hne, hm⟩ := Finset.mem_erase.1 hq
  have hq : h.owner = some q := ((ho q).1 hm).1.elim id (hf q)
  rw [hown] at hq
  cases hq
  exact hne rfl

/-- A release of what the first field leads to leaves nothing open. -/
theorem close_opened (hf : h.Follows) (ho : h.Owned) : h.close.opened = ∅ := by
  unfold close
  split
  · rename_i hown
    refine opened_empty hf ho fun o hm => ?_
    rw [hown] at hm
    cases hm
  · rename_i o hown
    split
    · exact closed_opened hf ho hown
    · rename_i hc
      refine opened_empty hf ho fun q hm => ?_
      rw [hown] at hm
      cases hm
      exact hc

private theorem close_sound (hs : h.Sound) : h.close.drop.Sound := by
  have hclosed : ∀ o, (h.closed o).drop.Sound := fun o =>
    ⟨fun q hq => hs.old q (Finset.mem_of_mem_erase hq), Finset.erase_subset_erase _ hs.connected,
      fun _ hu => by cases hu⟩
  have hdrop : h.drop.Sound := ⟨hs.old, hs.connected, fun _ hu => by cases hu⟩
  unfold close
  split
  · exact hdrop
  · split
    · exact hclosed _
    · exact hdrop

private theorem drop_handedOn : h.drop.HandedOn := fun _ ho => by cases ho

private theorem drop_owned (hempty : h.opened = ∅) : h.drop.Owned := by
  intro o
  refine iff_of_false (fun hm => ?_) (by simp [drop])
  rw [show h.drop.opened = ∅ from hempty] at hm
  exact absurd hm (Finset.notMem_empty o)

private theorem dropUser_follows : h.dropUser.Follows := fun _ hu => by cases hu

/-! ### Whatever is open -/

variable {live wanted : Bool}

theorem empty_fit : empty.Fit live wanted where
  sound := empty_sound
  idle _ o ho := by cases ho
  live _ o ho := by cases ho
  clear _ := ⟨rfl, rfl⟩

theorem Fit.attempt {asked succeeds : Bool} (hf : h.Fit false wanted) (leaves : Bool)
    (hasked : asked = true → wanted = true) (hlive : live = true → wanted = true → asked = true ∧ succeeds = true) :
    (h.attempt asked succeeds leaves).Fit live wanted where
  sound := attempt_sound hf.sound asked succeeds leaves
  idle _ := attempt_handedOn hf.sound (hf.idle rfl) asked succeeds leaves
  live hl := by
    cases wanted with
    | true =>
      obtain ⟨ha, hs⟩ := hlive hl rfl
      rw [ha, hs]
      exact opens_follows
    | false =>
      have ha : asked = false := Bool.eq_false_iff.2 fun ha => absurd (hasked ha) (by decide)
      intro o ho
      rw [ha] at ho
      exact absurd ((hf.clear rfl).2.symm.trans ho) (by simp)
  clear hw := by
    have ha : asked = false := Bool.eq_false_iff.2 fun ha => absurd ((hasked ha).symm.trans hw) (by decide)
    rw [ha]
    exact hf.clear hw

theorem Fit.dropUser (hf : h.Fit true wanted) : h.dropUser.Fit true wanted where
  sound := dropUser_sound hf.sound
  idle hl := absurd hl (by decide)
  live _ := dropUser_follows
  clear hw := ⟨(hf.clear hw).1, rfl⟩

theorem Fit.close (hf : h.Fit true wanted) : h.close.drop.Fit live wanted where
  sound := close_sound hf.sound
  idle _ := drop_handedOn
  live _ o ho := by cases ho
  clear _ := ⟨rfl, rfl⟩

theorem Fit.close_owned (hf : h.Fit true wanted) (ho : h.Owned) : h.close.drop.Owned :=
  drop_owned (close_opened (hf.live rfl) ho)

end Held

end CleanBackend
