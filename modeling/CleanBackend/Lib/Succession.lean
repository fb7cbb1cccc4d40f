import Mathlib.Data.List.Basic

/-!
# Credentials that replace one another

A credential is live until it is revoked or replaced by a fresh one.  `R` lists the replacements that took place, and
the line of `root` is what descends from `root` by them.  In a line of descent only one credential, the head, may be
live (`Succession`), so the line is extinct as soon as its head is revoked, and stays so.
-/

namespace CleanBackend

variable {κ : Type} {root a b c : κ} {R : List (κ × κ)} {live live' : κ → Prop}

/-- The line of `root` under the replacements `R`. -/
inductive Descends (root : κ) (R : List (κ × κ)) : κ → Prop where
  | root : Descends root R root
  | replaced {a b : κ} (ha : Descends root R a) (h : (a, b) ∈ R) : Descends root R b

/-- `b` has taken part in no replacement, and is not `root`. -/
structure FreshFor (root : κ) (R : List (κ × κ)) (b : κ) : Prop where
  ne_root : b ≠ root
  ne_old : ∀ e ∈ R, e.1 ≠ b
  ne_new : ∀ e ∈ R, e.2 ≠ b

instance [DecidableEq κ] (root : κ) (R : List (κ × κ)) (b : κ) : Decidable (FreshFor root R b) :=
  decidable_of_iff (b ≠ root ∧ (∀ e ∈ R, e.1 ≠ b) ∧ ∀ e ∈ R, e.2 ≠ b)
    ⟨fun h => ⟨h.1, h.2.1, h.2.2⟩, fun h => ⟨h.ne_root, h.ne_old, h.ne_new⟩⟩

/-- No replaced credential is live, and all of the line but its head has been replaced. -/
structure Succession (root : κ) (R : List (κ × κ)) (live : κ → Prop) : Prop where
  replaced : ∀ e ∈ R, ¬ live e.1
  head : ∃ a, Descends root R a ∧ ∀ b, Descends root R b → b = a ∨ ∃ e ∈ R, e.1 = b

/-- No credential of the line is live. -/
def Extinct (root : κ) (R : List (κ × κ)) (live : κ → Prop) : Prop := ∀ a, Descends root R a → ¬ live a

/-! ### The line -/

/-- A property of `root` and of every replacement is one of the line. -/
theorem Descends.of_forall {P : κ → Prop} (h : Descends root R a) (hroot : P root) (hR : ∀ e ∈ R, P e.2) : P a := by
  cases h with
  | root => exact hroot
  | replaced _ he => exact hR _ he

private theorem Descends.ne_of_fresh (h : Descends root R a) (hb : FreshFor root R b) : a ≠ b :=
  h.of_forall (P := fun x => x ≠ b) hb.ne_root.symm hb.ne_new

theorem Descends.mono (h : Descends root R a) (e : κ × κ) : Descends root (e :: R) a := by
  induction h with
  | root => exact .root
  | replaced _ he ih => exact .replaced ih (List.mem_cons_of_mem e he)

/-- A replacement by a fresh credential adds that credential, if it adds anything. -/
theorem Descends.of_cons (hb : FreshFor root R b) (hne : a ≠ b) (h : Descends root ((a, b) :: R) c) :
    Descends root R c ∨ (Descends root R a ∧ c = b) := by
  induction h with
  | root => exact Or.inl .root
  | @replaced x y _ he ih =>
    rcases List.mem_cons.1 he with he | he
    · cases he
      exact Or.inr ⟨ih.resolve_right fun hr => hne hr.2, rfl⟩
    · -- the fresh credential has replaced nothing before
      have hx : x ≠ b := hb.ne_old _ he
      exact Or.inl (.replaced (ih.resolve_right fun hr => hx hr.2) he)

/-! ### One event -/

namespace Succession

theorem initial (root : κ) (live : κ → Prop) : Succession root [] live where
  replaced _ he := nomatch he
  head := ⟨root, .root, fun _ hb => Or.inl (hb.of_forall (P := fun x => x = root) rfl fun _ he => nomatch he)⟩

/-- Revocations keep the order of succession. -/
theorem mono (h : Succession root R live) (hl : ∀ a, live' a → live a) : Succession root R live' where
  replaced e he hlive := h.replaced e he (hl _ hlive)
  head := h.head

/-- A live credential of the line is its head. -/
private theorem head_of_live (h : Succession root R live) {a : κ} (ha : Descends root R a) (hlive : live a) :
    ∀ b, Descends root R b → b = a ∨ ∃ e ∈ R, e.1 = b := by
  obtain ⟨a₀, -, hhead⟩ := h.head
  have heq : a = a₀ := by
    refine (hhead a ha).resolve_right ?_
    rintro ⟨e, he, rfl⟩
    exact h.replaced e he hlive
  rw [heq]
  exact hhead

/-- A live credential is replaced by a fresh one. -/
theorem replace (h : Succession root R live) (hb : FreshFor root R b) (hne : a ≠ b) (ha : live a)
    (hl : ∀ c, live' c → c = b ∨ (c ≠ a ∧ live c)) : Succession root ((a, b) :: R) live' where
  replaced e he hlive := by
    rcases List.mem_cons.1 he with rfl | he
    · rcases hl _ hlive with heq | ⟨hself, -⟩
      · exact hne heq
      · exact hself rfl
    · rcases hl _ hlive with heq | ⟨-, hold⟩
      · exact hb.ne_old e he heq
      · exact h.replaced e he hold
  head := by
    by_cases hda : Descends root R a
    · -- the line goes on with `b`
      refine ⟨b, .replaced (hda.mono _) List.mem_cons_self, fun c hc => ?_⟩
      rcases hc.of_cons hb hne with hc | ⟨-, hc⟩
      · rcases h.head_of_live hda ha c hc with rfl | ⟨e, he, hec⟩
        · exact Or.inr ⟨_, List.mem_cons_self, rfl⟩
        · exact Or.inr ⟨e, List.mem_cons_of_mem _ he, hec⟩
      · exact Or.inl hc
    · -- another line
      obtain ⟨a₀, ha₀, hhead⟩ := h.head
      refine ⟨a₀, ha₀.mono _, fun c hc => ?_⟩
      have hc := (hc.of_cons hb hne).resolve_right fun hr => hda hr.1
      exact (hhead c hc).imp_right fun ⟨e, he, hec⟩ => ⟨e, List.mem_cons_of_mem _ he, hec⟩

/-- The revocation of a credential of the line that has not been replaced ends the line. -/
theorem extinct_of_revoke (h : Succession root R live) (ha : Descends root R a) (hnew : ∀ e ∈ R, e.1 ≠ a)
    (hl : ∀ c, live' c → c ≠ a ∧ live c) : Extinct root R live' := by
  intro c hc hlive
  obtain ⟨hne, hlive⟩ := hl c hlive
  obtain ⟨e, he, hea⟩ := (h.head_of_live hc hlive a ha).resolve_left hne.symm
  exact hnew e he hea

end Succession

namespace Extinct

theorem mono (h : Extinct root R live) (hl : ∀ a, live' a → live a) : Extinct root R live' :=
  fun a ha hlive => h a ha (hl a hlive)

/-- Only live credentials are replaced, so an extinct line stays as it is. -/
theorem replace (h : Extinct root R live) (hb : FreshFor root R b) (hne : a ≠ b) (ha : live a)
    (hl : ∀ c, live' c → c = b ∨ (c ≠ a ∧ live c)) : Extinct root ((a, b) :: R) live' := by
  intro c hc hlive
  have hc := (hc.of_cons hb hne).resolve_right fun hr => h a hr.1 ha
  rcases hl c hlive with heq | ⟨-, hold⟩
  · exact hc.ne_of_fresh hb heq
  · exact h c hc hold

end Extinct

/-- A line with a live credential keeps one when a live credential is replaced. -/
theorem Descends.exists_live_of_replace (hex : ∃ c, Descends root R c ∧ live c)
    (hl : ∀ c, c = b ∨ (c ≠ a ∧ live c) → live' c) : ∃ c, Descends root ((a, b) :: R) c ∧ live' c := by
  obtain ⟨c, hc, hlive⟩ := hex
  by_cases hca : c = a
  · subst hca
    exact ⟨b, .replaced (hc.mono _) List.mem_cons_self, hl b (Or.inl rfl)⟩
  · exact ⟨c, hc.mono _, hl c (Or.inr ⟨hca, hlive⟩)⟩

end CleanBackend
