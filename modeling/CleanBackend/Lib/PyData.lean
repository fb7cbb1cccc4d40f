import CleanBackend.Lib.Json

/-!
# Python data for `json.dumps`

The values `json.dumps` accepts, with lists and tuples told apart and keys of every type it accepts, and the JSON it
writes for them (`PyData.render`).

Some keys are hidden, by their text.  Two values agree outside the hidden keys (`PyData.AgreeOutside`) when they
differ at most in what is stored below such keys; `PyData.perturb` changes every value under a hidden key and nothing
else, so that a value renders as its perturbation does exactly when it has no hidden key (`PyData.perturb_render`).
-/

namespace CleanBackend

/-- A key of a dictionary; a `float` is given by its `repr`. -/
inductive PyKey where
  | str (s : String)
  | int (n : Int)
  | float (repr : String)
  | bool (b : Bool)
  | none
  deriving DecidableEq, Repr

/-- What `json.dumps` writes for the key. -/
def PyKey.text : PyKey → String
  | str s => s
  | int n => toString n
  | float repr => repr
  | bool b => if b then "true" else "false"
  | none => "null"

inductive PyData where
  | none
  | bool (b : Bool)
  | int (n : Int)
  | float (mantissa exponent : Int)
  | str (s : String)
  | list (items : List PyData)
  | tuple (items : List PyData)
  | dict (entries : List (PyKey × PyData))
  deriving Repr

namespace PyData

def isScalar : PyData → Bool
  | list _ | tuple _ | dict _ => false
  | _ => true

/-- Induction over a value, its lists and its dictionaries at once. -/
theorem induction {P : PyData → Prop} {Q : List PyData → Prop} {R : List (PyKey × PyData) → Prop}
    (scalar : ∀ value, value.isScalar → P value) (list : ∀ items, Q items → P (list items))
    (tuple : ∀ items, Q items → P (tuple items)) (dict : ∀ entries, R entries → P (dict entries))
    (nil : Q []) (cons : ∀ item items, P item → Q items → Q (item :: items))
    (noEntry : R []) (entry : ∀ key value entries, P value → R entries → R ((key, value) :: entries)) :
    (∀ value, P value) ∧ (∀ items, Q items) ∧ ∀ entries, R entries := by
  have hall : ∀ value, P value := fun value =>
    PyData.rec (motive_1 := P) (motive_2 := Q) (motive_3 := R) (motive_4 := fun entry => P entry.2)
      (scalar _ rfl) (fun _ => scalar _ rfl) (fun _ => scalar _ rfl) (fun _ _ => scalar _ rfl) (fun _ => scalar _ rfl)
      list tuple dict nil cons noEntry (fun ⟨key, value⟩ entries hv he => entry key value entries hv he)
      (fun _ _ hv => hv) value
  refine ⟨hall, fun items => ?_, fun entries => ?_⟩
  · induction items with
    | nil => exact nil
    | cons item items ih => exact cons item items (hall item) ih
  · induction entries with
    | nil => exact noEntry
    | cons e entries ih => exact entry e.1 e.2 entries (hall e.2) ih

/-! ### The JSON of a value -/

mutual

def render : PyData → Json
  | none => .null
  | bool b => .bool b
  | int n => .num n 0
  | float mantissa exponent => .num mantissa exponent
  | str s => .str s
  | list items | tuple items => .arr (renderItems items)
  | dict entries => .obj (renderEntries entries)

def renderItems : List PyData → List Json
  | [] => []
  | item :: items => render item :: renderItems items

def renderEntries : List (PyKey × PyData) → List (String × Json)
  | [] => []
  | (key, value) :: entries => (key.text, render value) :: renderEntries entries

end

/-! ### Hidden keys -/

variable (hidden : String → Bool)

mutual

/-- No key is hidden, at any depth. -/
def Clean : PyData → Prop
  | list items | tuple items => CleanItems items
  | dict entries => CleanEntries entries
  | _ => True

def CleanItems : List PyData → Prop
  | [] => True
  | item :: items => Clean item ∧ CleanItems items

def CleanEntries : List (PyKey × PyData) → Prop
  | [] => True
  | (key, value) :: entries => hidden key.text = false ∧ Clean value ∧ CleanEntries entries

end

mutual

/-- The same, except for what is stored below hidden keys. -/
def AgreeOutside : PyData → PyData → Prop
  | list items, list items' => AgreeItems items items'
  | tuple items, tuple items' => AgreeItems items items'
  | dict entries, dict entries' => AgreeEntries entries entries'
  | value, value' => value = value'

def AgreeItems : List PyData → List PyData → Prop
  | [], items' => items' = []
  | _ :: _, [] => False
  | item :: items, item' :: items' => AgreeOutside item item' ∧ AgreeItems items items'

def AgreeEntries : List (PyKey × PyData) → List (PyKey × PyData) → Prop
  | [], entries' => entries' = []
  | _ :: _, [] => False
  | (key, value) :: entries, (key', value') :: entries' =>
    key' = key ∧ (hidden key.text = true ∨ AgreeOutside value value') ∧ AgreeEntries entries entries'

end

/-- Another value. -/
def other : PyData → PyData
  | none => bool true
  | _ => none

private theorem render_other (value : PyData) : value.other.render ≠ value.render := by
  cases value <;> simp [other, render]

mutual

/-- Another value under every hidden key. -/
def perturb : PyData → PyData
  | list items => list (perturbItems items)
  | tuple items => tuple (perturbItems items)
  | dict entries => dict (perturbEntries entries)
  | value => value

def perturbItems : List PyData → List PyData
  | [] => []
  | item :: items => perturb item :: perturbItems items

def perturbEntries : List (PyKey × PyData) → List (PyKey × PyData)
  | [] => []
  | (key, value) :: entries =>
    (key, if hidden key.text then other value else perturb value) :: perturbEntries entries

end

variable {hidden}

/-- Agreement in values without hidden keys is equality. -/
theorem eq_of_agree :
    (∀ value, Clean hidden value → ∀ value', AgreeOutside hidden value value' → value' = value) ∧
    (∀ items, CleanItems hidden items → ∀ items', AgreeItems hidden items items' → items' = items) ∧
    ∀ entries, CleanEntries hidden entries → ∀ entries', AgreeEntries hidden entries entries' →
      entries' = entries := by
  apply PyData.induction
  case scalar =>
    intro value hs _ value' ha
    cases value with
    | list _ | tuple _ | dict _ => cases hs
    | _ => simpa only [AgreeOutside, eq_comm] using ha
  case list | tuple | dict =>
    intro inner ih hc value' ha
    cases value' <;> simp only [AgreeOutside, Clean, reduceCtorEq] at hc ha
    rw [ih hc _ ha]
  case nil | noEntry =>
    intro _ inner' ha
    simpa only [AgreeItems, AgreeEntries] using ha
  case cons =>
    intro item items ih ihs hc items' ha
    cases items' with
    | nil => simp only [AgreeItems] at ha
    | cons item' items' =>
      simp only [CleanItems] at hc
      simp only [AgreeItems] at ha
      rw [ih hc.1 _ ha.1, ihs hc.2 _ ha.2]
  case entry =>
    intro key value entries ih ihs hc entries' ha
    cases entries' with
    | nil => simp only [AgreeEntries] at ha
    | cons entry' entries' =>
      obtain ⟨key', value'⟩ := entry'
      simp only [CleanEntries] at hc
      simp only [AgreeEntries, hc.1, Bool.false_eq_true, false_or] at ha
      rw [ih hc.2.1 _ ha.2.1, ihs hc.2.2 _ ha.2.2, ha.1]

theorem agree_perturb :
    (∀ value, AgreeOutside hidden value (perturb hidden value)) ∧
    (∀ items, AgreeItems hidden items (perturbItems hidden items)) ∧
    ∀ entries, AgreeEntries hidden entries (perturbEntries hidden entries) := by
  apply PyData.induction
  case scalar =>
    intro value hs
    cases value with
    | list _ | tuple _ | dict _ => cases hs
    | _ => simp only [perturb, AgreeOutside]
  case list | tuple | dict =>
    intro inner ih
    simpa only [perturb, AgreeOutside] using ih
  case nil => simp only [perturbItems, AgreeItems]
  case noEntry => simp only [perturbEntries, AgreeEntries]
  case cons =>
    intro item items ih ihs
    simp only [perturbItems, AgreeItems]
    exact ⟨ih, ihs⟩
  case entry =>
    intro key value entries ih ihs
    simp only [perturbEntries, AgreeEntries]
    refine ⟨trivial, ?_, ihs⟩
    by_cases h : hidden key.text = true
    · exact Or.inl h
    · rw [if_neg h]
      exact Or.inr ih

/-- A perturbation that cannot be seen in the JSON had no key to act on. -/
theorem perturb_render :
    (∀ value, render (perturb hidden value) = render value → Clean hidden value) ∧
    (∀ items, renderItems (perturbItems hidden items) = renderItems items → CleanItems hidden items) ∧
    ∀ entries, renderEntries (perturbEntries hidden entries) = renderEntries entries →
      CleanEntries hidden entries := by
  apply PyData.induction
  case scalar =>
    intro value hs _
    cases value with
    | list _ | tuple _ | dict _ => cases hs
    | _ => simp only [Clean]
  case list | tuple | dict =>
    intro inner ih h
    simp only [perturb, render, Json.arr.injEq, Json.obj.injEq] at h
    simpa only [Clean] using ih h
  case nil => simp only [CleanItems, implies_true]
  case noEntry => simp only [CleanEntries, implies_true]
  case cons =>
    intro item items ih ihs h
    simp only [perturbItems, renderItems, List.cons.injEq] at h
    simp only [CleanItems]
    exact ⟨ih h.1, ihs h.2⟩
  case entry =>
    intro key value entries ih ihs h
    simp only [perturbEntries, renderEntries, List.cons.injEq, Prod.mk.injEq, true_and] at h
    simp only [CleanEntries]
    by_cases hk : hidden key.text = true
    · rw [if_pos hk] at h
      exact absurd h.1 (render_other value)
    · rw [if_neg hk] at h
      exact ⟨Bool.eq_false_iff.2 hk, ih h.1, ihs h.2⟩

end PyData

end CleanBackend
