import CleanBackend.Core.ErrorEnvelope
import CleanBackend.Database.Schema
import CleanBackend.Lib.OrderBy
import CleanBackend.Lib.OwnedRuns
import CleanBackend.Lib.PyDict
import Mathlib.Data.List.Sort
import Mathlib.Data.String.Basic

/-!
# One port, two adapters

`ExampleRepositoryProtocol` with its in-memory fake and its asyncpg adapter.  The fake keeps a dictionary under
`(tenant_id, id)` and sorts in Python; the adapter keeps rows under `id` and sorts in the database, under its
collation and in any order among equal names.  The connection does not fail here, since the fake has none.  While no
id is drawn twice and no text holds a NUL, which PostgreSQL cannot store, the two answer alike
(`example_repositories_agree`), and what a tenant is answered is independent of the others
(`example_tenants_isolated`).
-/

namespace CleanBackend

structure ExampleItemDTO where
  id : String
  name : String
  tenantId : String
  deriving DecidableEq, Repr

/-- A call of the port; a create comes with the id that it draws, `uuid4().hex`. -/
inductive ExampleCall where
  | create (tenantId name itemId : String)
  | get (tenantId itemId : String)
  | listForTenant (tenantId : String)
  deriving DecidableEq, Repr

def ExampleCall.tenant : ExampleCall → String
  | create tenantId _ _ | get tenantId _ | listForTenant tenantId => tenantId

/-- The id that a call draws. -/
def ExampleCall.drawn : ExampleCall → Option String
  | create _ _ itemId => some itemId
  | get _ _ | listForTenant _ => none

/-- What a call returns or raises. -/
inductive ExampleAnswer where
  | created (item : ExampleItemDTO)
  | found (item : Option ExampleItemDTO)
  | items (items : List ExampleItemDTO)
  | raised (exc : AppError)

/-! ### The fake -/

/-- `_items` -/
abbrev FakeExampleRepository := PyDict (String × String) ExampleItemDTO

namespace FakeExampleRepository

def create (repo : FakeExampleRepository) (tenantId name itemId : String) : ExampleItemDTO × FakeExampleRepository :=
  let item : ExampleItemDTO := ⟨itemId, name, tenantId⟩
  (item, repo.set (tenantId, item.id) item)

def get (repo : FakeExampleRepository) (tenantId itemId : String) : Option ExampleItemDTO :=
  PyDict.get repo (tenantId, itemId)

/-- `sorted` is stable, and compares names by their code points. -/
def listForTenant (repo : FakeExampleRepository) (tenantId : String) : List ExampleItemDTO :=
  ((repo.filter fun entry => entry.1.1 = tenantId).map Prod.snd).mergeSort fun a b => decide (a.name ≤ b.name)

def call (repo : FakeExampleRepository) : ExampleCall → ExampleAnswer × FakeExampleRepository
  | .create tenantId name itemId =>
    let (item, repo) := repo.create tenantId name itemId
    (.created item, repo)
  | .get tenantId itemId => (.found (repo.get tenantId itemId), repo)
  | .listForTenant tenantId => (.items (repo.listForTenant tenantId), repo)

def answers : FakeExampleRepository → List ExampleCall → List ExampleAnswer
  | _, [] => []
  | repo, c :: cs => (repo.call c).1 :: answers (repo.call c).2 cs

end FakeExampleRepository

/-! ### The adapter -/

/-- The text parameters of a call. -/
def ExampleCall.texts : ExampleCall → List String
  | create tenantId name itemId => [itemId, tenantId, name]
  | get tenantId itemId => [tenantId, itemId]
  | listForTenant tenantId => [tenantId]

namespace DatabaseExampleRepository

/-- `_example_items` -/
abbrev Rows := List ExampleItemDTO

def untranslatable : AppError :=
  .databaseOperation [("error_type", .str "CharacterNotInRepertoireError"), ("sqlstate", .str "22021")]

def duplicateId : AppError := .conflict "Resource already exists" [("constraint", .str "_example_items_pkey")]

/-- What a call may answer, over a connection that does not fail; the names sort by `collation`. -/
inductive Call {κ : Type} [LinearOrder κ] (collation : String → κ) : Rows → ExampleCall → ExampleAnswer → Rows → Prop
    where
  | untranslatable {rows : Rows} {c : ExampleCall} (h : ∃ text ∈ c.texts, ¬ Storable text) :
      Call collation rows c (.raised untranslatable) rows
  | created {rows : Rows} {tenantId name itemId : String} (h : ∀ row ∈ rows, row.id ≠ itemId)
      (ht : ∀ text ∈ (ExampleCall.create tenantId name itemId).texts, Storable text) :
      Call collation rows (.create tenantId name itemId) (.created ⟨itemId, name, tenantId⟩)
        (rows ++ [⟨itemId, name, tenantId⟩])
  | conflict {rows : Rows} {tenantId name itemId : String} (h : ∃ row ∈ rows, row.id = itemId)
      (ht : ∀ text ∈ (ExampleCall.create tenantId name itemId).texts, Storable text) :
      Call collation rows (.create tenantId name itemId) (.raised duplicateId) rows
  | get {rows : Rows} {tenantId itemId : String}
      (ht : ∀ text ∈ (ExampleCall.get tenantId itemId).texts, Storable text) :
      Call collation rows (.get tenantId itemId)
        (.found (rows.find? fun row => decide (row.tenantId = tenantId ∧ row.id = itemId))) rows
  | listForTenant {rows out : Rows} {tenantId : String}
      (hout : OrderBy.Sorts (fun row => collation row.name) (rows.filter fun row => row.tenantId = tenantId) out)
      (ht : ∀ text ∈ (ExampleCall.listForTenant tenantId).texts, Storable text) :
      Call collation rows (.listForTenant tenantId) (.items out) rows

end DatabaseExampleRepository

/-! ### The adapters answer alike -/

section Alike

variable {κ : Type} [LinearOrder κ] {collation : String → κ}

/-- The same answer, but for the order of a list; that too if the collation is by code points and no name comes twice.
-/
inductive Alike (collation : String → κ) : ExampleAnswer → ExampleAnswer → Prop where
  | same (r : ExampleAnswer) : Alike collation r r
  | items {l l' : List ExampleItemDTO} (hperm : l.Perm l')
      (hsame : (∀ a b, collation a ≤ collation b ↔ a ≤ b) → (l.map ExampleItemDTO.name).Nodup → l = l') :
      Alike collation (.items l) (.items l')

/-- The dictionary that holds the rows. -/
def entriesOf (rows : List ExampleItemDTO) : FakeExampleRepository := rows.map fun row =>
    ((row.tenantId, row.id), row)

private theorem entriesOf_get (rows : List ExampleItemDTO) (tenantId itemId : String) :
    (entriesOf rows).get tenantId itemId =
      rows.find? fun row => decide (row.tenantId = tenantId ∧ row.id = itemId) := by
  unfold FakeExampleRepository.get PyDict.get findBy entriesOf
  rw [List.find?_map, Option.map_map]
  have hkey : (fun e : (String × String) × ExampleItemDTO => decide (e.1 = (tenantId, itemId))) ∘
      (fun row : ExampleItemDTO => ((row.tenantId, row.id), row)) =
        fun row => decide (row.tenantId = tenantId ∧ row.id = itemId) := by
    funext row
    simp [Prod.mk.injEq]
  rw [hkey]
  exact congrFun Option.map_id _

private theorem entriesOf_create {rows : List ExampleItemDTO} {itemId : String} (h : ∀ row ∈ rows, row.id ≠ itemId)
    (tenantId name : String) :
    ((entriesOf rows).create tenantId name itemId).2 = entriesOf (rows ++ [⟨itemId, name, tenantId⟩]) := by
  have hnone : PyDict.get (entriesOf rows) (tenantId, itemId) = none := by
    have hget := entriesOf_get rows tenantId itemId
    rw [List.find?_eq_none.2 fun row hrow => by simp [h row hrow]] at hget
    exact hget
  show PyDict.set (entriesOf rows) (tenantId, itemId) ⟨itemId, name, tenantId⟩ = _
  rw [PyDict.set_of_get_none hnone]
  simp [entriesOf]

/-- `sorted` is one of the orders by code points. -/
private theorem listForTenant_sorts (rows : List ExampleItemDTO) (tenantId : String) :
    OrderBy.Sorts ExampleItemDTO.name (rows.filter fun row => row.tenantId = tenantId)
      ((entriesOf rows).listForTenant tenantId) := by
  have hrows : ((entriesOf rows).filter fun entry => entry.1.1 = tenantId).map Prod.snd =
      rows.filter fun row => row.tenantId = tenantId := by
    unfold entriesOf
    rw [List.filter_map, List.map_map]
    exact List.map_id'' (fun _ => rfl) _
  unfold FakeExampleRepository.listForTenant
  rw [hrows]
  refine ⟨List.mergeSort_perm _ _, ?_⟩
  have htrans : ∀ a b c : ExampleItemDTO, decide (a.name ≤ b.name) = true → decide (b.name ≤ c.name) = true →
      decide (a.name ≤ c.name) = true := fun a b c hab hbc =>
    decide_eq_true (le_trans (of_decide_eq_true hab) (of_decide_eq_true hbc))
  have htotal : ∀ a b : ExampleItemDTO, (decide (a.name ≤ b.name) || decide (b.name ≤ a.name)) = true := fun a b => by
    simpa using le_total a.name b.name
  exact (List.pairwise_mergeSort htrans htotal _).imp of_decide_eq_true

/-- Two orders of rows with distinct names are equal. -/
private theorem sorts_unique {rows l l' : List ExampleItemDTO} (h : OrderBy.Sorts ExampleItemDTO.name rows l)
    (h' : OrderBy.Sorts ExampleItemDTO.name rows l') (hnodup : (l.map ExampleItemDTO.name).Nodup) : l = l' := by
  refine List.Perm.eq_of_pairwise (fun a b ha hb hab hba => ?_) h.sorted h'.sorted (h.perm.trans h'.perm.symm)
  have hb' : b ∈ l := (h.perm.trans h'.perm.symm).mem_iff.2 hb
  exact List.inj_on_of_nodup_map hnodup ha hb' (le_antisymm hab hba)

/-- One call: the fake answers alike, and holds the rows after it. -/
private theorem call_alike {rows rows' : List ExampleItemDTO} {c : ExampleCall} {r : ExampleAnswer}
    (hfresh : ∀ itemId ∈ c.drawn, ∀ row ∈ rows, row.id ≠ itemId) (htext : ∀ text ∈ c.texts, Storable text)
    (h : DatabaseExampleRepository.Call collation rows c r rows') :
    Alike collation ((entriesOf rows).call c).1 r ∧ ((entriesOf rows).call c).2 = entriesOf rows' := by
  cases h with
  | untranslatable hbad =>
    obtain ⟨text, hmem, hbad⟩ := hbad
    exact absurd (htext text hmem) hbad
  | @created tenantId name itemId hnew ht => exact ⟨.same _, entriesOf_create hnew tenantId name⟩
  | conflict hdup ht =>
    obtain ⟨row, hrow, hid⟩ := hdup
    exact absurd hid (hfresh _ rfl row hrow)
  | @get tenantId itemId ht =>
    refine ⟨?_, rfl⟩
    rw [← entriesOf_get]
    exact .same _
  | @listForTenant out tenantId hout ht =>
    have hsorts := listForTenant_sorts rows tenantId
    refine ⟨.items (hsorts.perm.trans hout.perm.symm) fun horder hnodup => ?_, rfl⟩
    exact sorts_unique hsorts ⟨hout.perm, hout.sorted.imp fun hab => (horder _ _).1 hab⟩ hnodup

/-- A call leaves the rows and adds one under the id that it draws. -/
private theorem ids_of_call {rows rows' : List ExampleItemDTO} {c : ExampleCall} {r : ExampleAnswer}
    (h : DatabaseExampleRepository.Call collation rows c r rows') {row : ExampleItemDTO} (hrow : row ∈ rows') :
    row ∈ rows ∨ c.drawn = some row.id := by
  cases h with
  | created hnew ht =>
    rcases List.mem_append.1 hrow with hrow | hrow
    · exact Or.inl hrow
    · obtain rfl := List.mem_singleton.1 hrow
      exact Or.inr rfl
  | _ => exact Or.inl hrow

/-- The ids that a run is going to draw are none of the rows'. -/
def Fresh (rows : List ExampleItemDTO) (calls : List ExampleCall) : Prop :=
  (calls.filterMap ExampleCall.drawn).Nodup ∧ ∀ itemId ∈ calls.filterMap ExampleCall.drawn, ∀ row ∈ rows,
    row.id ≠ itemId

private theorem Fresh.cons {rows rows' : List ExampleItemDTO} {c : ExampleCall} {calls : List ExampleCall}
    {r : ExampleAnswer}
    (h : Fresh rows (c :: calls)) (hcall : DatabaseExampleRepository.Call collation rows c r rows') :
    (∀ itemId ∈ c.drawn, ∀ row ∈ rows, row.id ≠ itemId) ∧ Fresh rows' calls := by
  obtain ⟨hnodup, hnew⟩ := h
  cases hd : c.drawn with
  | none =>
    rw [List.filterMap_cons_none hd] at hnodup hnew
    refine ⟨fun itemId hitem => by simp at hitem, hnodup, fun itemId hitem row hrow => ?_⟩
    rcases ids_of_call hcall hrow with hrow | hid
    · exact hnew itemId hitem row hrow
    · rw [hd] at hid
      cases hid
  | some drawn =>
    rw [List.filterMap_cons_some hd] at hnodup hnew
    obtain ⟨hnot, hnodup⟩ := List.nodup_cons.1 hnodup
    refine ⟨fun itemId hitem row hrow => ?_, hnodup, fun itemId hitem row hrow => ?_⟩
    · obtain rfl : drawn = itemId := by simpa using hitem
      exact hnew drawn List.mem_cons_self row hrow
    · rcases ids_of_call hcall hrow with hrow | hid
      · exact hnew itemId (List.mem_cons_of_mem _ hitem) row hrow
      · rintro rfl
        rw [hd] at hid
        exact hnot (Option.some.inj hid ▸ hitem)

private theorem answers_alike {rows rows' : List ExampleItemDTO} {calls : List ExampleCall}
    {replies : List ExampleAnswer} (hfresh : Fresh rows calls) (htext : ∀ c ∈ calls, ∀ text ∈ c.texts, Storable text)
    (h : Replies (DatabaseExampleRepository.Call collation) rows calls replies rows') :
    List.Forall₂ (Alike collation) ((entriesOf rows).answers calls) replies := by
  induction h with
  | nil rows => exact .nil
  | @cons rows rows₁ rows' c r calls replies hcall _ ih =>
    obtain ⟨hnew, hrest⟩ := hfresh.cons hcall
    obtain ⟨halike, hstate⟩ := call_alike hnew (htext c List.mem_cons_self) hcall
    refine .cons halike ?_
    rw [hstate]
    exact ih hrest fun c hc => htext c (List.mem_cons_of_mem _ hc)

end Alike

/-- The adapter answers every call. -/
private theorem exists_answers {κ : Type} [LinearOrder κ] (collation : String → κ) (calls : List ExampleCall)
    (rows : List ExampleItemDTO) :
    ∃ replies rows', Replies (DatabaseExampleRepository.Call collation) rows calls replies rows' := by
  induction calls generalizing rows with
  | nil => exact ⟨[], rows, .nil rows⟩
  | cons c calls ih =>
    obtain ⟨r, rows₁, hcall⟩ : ∃ r rows₁, DatabaseExampleRepository.Call collation rows c r rows₁ := by
      by_cases htext : ∀ text ∈ c.texts, Storable text
      · cases c with
        | create tenantId name itemId =>
          by_cases hnew : ∀ row ∈ rows, row.id ≠ itemId
          · exact ⟨_, _, .created hnew htext⟩
          · push Not at hnew
            exact ⟨_, _, .conflict hnew htext⟩
        | get tenantId itemId => exact ⟨_, _, .get htext⟩
        | listForTenant tenantId =>
          obtain ⟨out, hout⟩ := OrderBy.exists_sorts (fun row => collation (ExampleItemDTO.name row))
            (rows.filter fun row => row.tenantId = tenantId)
          exact ⟨_, _, .listForTenant hout htext⟩
      · push Not at htext
        exact ⟨_, _, .untranslatable htext⟩
    obtain ⟨replies, rows', hrest⟩ := ih rows₁
    exact ⟨r :: replies, rows', .cons hcall hrest⟩

/-- Over a connection that does not fail and every sequence of calls that draws no id twice and holds no NUL, the
adapter has a run, and in every run of it the fake gives the same answers, but for the order of a list; and the same
order where the database sorts by code points and no name of the list comes twice. -/
theorem example_repositories_agree {κ : Type} [LinearOrder κ] (collation : String → κ) (calls : List ExampleCall)
    (hids : (calls.filterMap ExampleCall.drawn).Nodup) (htext : ∀ c ∈ calls, ∀ text ∈ c.texts, Storable text) :
    (∃ replies rows, Replies (DatabaseExampleRepository.Call collation) [] calls replies rows) ∧
      ∀ replies rows, Replies (DatabaseExampleRepository.Call collation) [] calls replies rows →
        List.Forall₂ (Alike collation) (FakeExampleRepository.answers [] calls) replies :=
  have hfresh : Fresh [] calls := ⟨hids, fun _ _ row hrow => by cases hrow⟩
  ⟨exists_answers collation calls [], fun _ _ hrun => answers_alike hfresh htext hrun⟩

/-- Two tenants, of which the first has two items. -/
def exampleCalls : List ExampleCall :=
  [.create "tenant-a" "second" "5f0c", .create "tenant-b" "b1" "77d1", .create "tenant-a" "first" "c3a9",
    .get "tenant-b" "5f0c", .listForTenant "tenant-a"]

theorem example_repositories_agree_two_tenants :
    (∃ replies rows, Replies (DatabaseExampleRepository.Call id) [] exampleCalls replies rows) ∧
      ∀ replies rows, Replies (DatabaseExampleRepository.Call id) [] exampleCalls replies rows →
        List.Forall₂ (Alike id) (FakeExampleRepository.answers [] exampleCalls) replies :=
  example_repositories_agree id exampleCalls (by decide) (by decide)

/-! ### Tenants -/

section Tenants

variable {κ : Type} [LinearOrder κ] {collation : String → κ}

/-- The fake as a step. -/
def FakeExampleRepository.Call (repo : FakeExampleRepository) (c : ExampleCall) (r : ExampleAnswer)
    (repo' : FakeExampleRepository) : Prop := repo.call c = (r, repo')

private theorem FakeExampleRepository.answers_run (repo : FakeExampleRepository) (calls : List ExampleCall) :
    ∃ repo', Replies FakeExampleRepository.Call repo calls (repo.answers calls) repo' := by
  induction calls generalizing repo with
  | nil => exact ⟨repo, .nil repo⟩
  | cons c calls ih =>
    obtain ⟨repo', hrest⟩ := ih (repo.call c).2
    exact ⟨repo', .cons rfl hrest⟩

private theorem FakeExampleRepository.answers_eq {repo repo' : FakeExampleRepository} {calls : List ExampleCall}
    {replies : List ExampleAnswer} (h : Replies FakeExampleRepository.Call repo calls replies repo') :
    replies = repo.answers calls := by
  induction h with
  | nil repo => rfl
  | cons hcall _ ih =>
    rw [FakeExampleRepository.answers, hcall, ih]

/-- The entries of a tenant. -/
def FakeExampleRepository.part (tenantId : String) (repo : FakeExampleRepository) : FakeExampleRepository :=
  repo.filter fun entry => decide (entry.1.1 = tenantId)

private theorem fake_owned : Owned FakeExampleRepository.Call ExampleCall.tenant FakeExampleRepository.part where
  own := by
    intro repo repo' c r h
    obtain ⟨rfl, rfl⟩ := Prod.mk.inj h
    cases c with
    | create tenantId name itemId =>
      exact congrArg (Prod.mk _) (PyDict.filter_set repo (p := fun key => decide (key.1 = tenantId)) (by simp) _).symm
    | get tenantId itemId =>
      have hget := PyDict.get_filter repo (k := (tenantId, itemId))
          (p := fun key => decide (key.1 = tenantId)) (by simp)
      exact congrArg (fun item => (ExampleAnswer.found item, repo.part tenantId)) hget
    | listForTenant tenantId =>
      show (ExampleAnswer.items ((repo.part tenantId).listForTenant tenantId), _) = _
      unfold FakeExampleRepository.listForTenant FakeExampleRepository.part
      rw [List.filter_filter]
      simp
  other := by
    intro repo repo' c r t h hne
    obtain ⟨-, rfl⟩ := Prod.mk.inj h
    cases c with
    | create tenantId name itemId =>
      exact PyDict.filter_set_of_not repo (p := fun key => decide (key.1 = t))
        (by simpa [ExampleCall.tenant] using hne) _
    | get tenantId itemId => rfl
    | listForTenant tenantId => rfl

/-- A call of the adapter that draws a new id. -/
def DatabaseExampleRepository.SettledCall (collation : String → κ) (rows : List ExampleItemDTO) (c : ExampleCall)
    (r : ExampleAnswer) (rows' : List ExampleItemDTO) : Prop :=
  DatabaseExampleRepository.Call collation rows c r rows' ∧ ∀ itemId ∈ c.drawn, ∀ row ∈ rows, row.id ≠ itemId

/-- The rows of a tenant. -/
def tenantRows (tenantId : String) (rows : List ExampleItemDTO) : List ExampleItemDTO :=
  rows.filter fun row => decide (row.tenantId = tenantId)

private theorem database_owned :
    Owned (DatabaseExampleRepository.SettledCall collation) ExampleCall.tenant tenantRows where
  own := by
    rintro rows rows' c r ⟨h, hfresh⟩
    refine ⟨?_, fun itemId hitem row hrow => hfresh itemId hitem row (List.mem_of_mem_filter hrow)⟩
    cases h with
    | untranslatable hbad => exact .untranslatable hbad
    | @created tenantId name itemId hnew ht =>
      have hrows : tenantRows tenantId (rows ++ [⟨itemId, name, tenantId⟩]) =
          tenantRows tenantId rows ++ [⟨itemId, name, tenantId⟩] := by simp [tenantRows]
      show DatabaseExampleRepository.Call collation _ _ _ (tenantRows tenantId _)
      rw [hrows]
      exact .created (fun row hrow => hnew row (List.mem_of_mem_filter hrow)) ht
    | conflict hdup ht =>
      obtain ⟨row, hrow, hid⟩ := hdup
      exact absurd hid (hfresh _ rfl row hrow)
    | @get tenantId itemId ht =>
      have hfind : rows.find? (fun row => decide (row.tenantId = tenantId ∧ row.id = itemId)) =
          (tenantRows tenantId rows).find? fun row => decide (row.tenantId = tenantId ∧ row.id = itemId) := by
        unfold tenantRows
        rw [List.find?_filter]
        refine congrArg (fun p => rows.find? p) (funext fun row => ?_)
        by_cases ht : row.tenantId = tenantId <;> simp [ht]
      rw [hfind]
      exact .get ht
    | @listForTenant out tenantId hout ht =>
      refine .listForTenant ?_ ht
      show OrderBy.Sorts _ ((tenantRows tenantId rows).filter _) out
      unfold tenantRows
      rw [List.filter_filter]
      simpa using hout
  other := by
    rintro rows rows' c r t ⟨h, -⟩ hne
    cases h with
    | @created tenantId name itemId hnew ht =>
      have hne : tenantId ≠ t := hne
      simp [tenantRows, hne]
    | _ => rfl

/-- With ids that are never drawn twice, every call draws a new one. -/
private theorem settled_of_fresh {rows rows' : List ExampleItemDTO} {calls : List ExampleCall}
    {replies : List ExampleAnswer} (hfresh : Fresh rows calls)
    (h : Replies (DatabaseExampleRepository.Call collation) rows calls replies rows') :
    Replies (DatabaseExampleRepository.SettledCall collation) rows calls replies rows' := by
  induction h with
  | nil rows => exact .nil rows
  | cons hcall _ ih =>
    obtain ⟨hnew, hrest⟩ := hfresh.cons hcall
    exact .cons ⟨hcall, hnew⟩ (ih hrest)

end Tenants

/-- What a tenant is answered is what it would be answered alone: over the fake on every sequence of calls, and over
the adapter in every run on calls that draw no id twice. -/
theorem example_tenants_isolated {κ : Type} [LinearOrder κ] (collation : String → κ) (calls : List ExampleCall)
    (tenantId : String) :
    let own := fun c : ExampleCall => decide (c.tenant = tenantId)
    keptAnswers own calls (FakeExampleRepository.answers [] calls) =
        FakeExampleRepository.answers [] (calls.filter own) ∧
      ((calls.filterMap ExampleCall.drawn).Nodup → ∀ replies rows,
        Replies (DatabaseExampleRepository.Call collation) [] calls replies rows →
          ∃ rows', Replies (DatabaseExampleRepository.Call collation) [] (calls.filter own)
            (keptAnswers own calls replies) rows') := by
  intro own
  refine ⟨?_, fun hids replies rows hrun => ?_⟩
  · obtain ⟨repo, hrun⟩ := FakeExampleRepository.answers_run [] calls
    exact FakeExampleRepository.answers_eq (fake_owned.alone hrun tenantId)
  · have hfresh : Fresh [] calls := ⟨hids, fun _ _ row hrow => by cases hrow⟩
    have hsettled := settled_of_fresh hfresh hrun
    exact ⟨_, (database_owned.alone hsettled tenantId).mono fun hcall => hcall.1⟩

end CleanBackend
