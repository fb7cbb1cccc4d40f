import CleanBackend.Core.ErrorEnvelope
import CleanBackend.Lib.PyData

/-!
# Redaction of error details

`redact_sensitive` and `_redact_value` on any Python data, and what `api_error` renders.  They walk dictionaries and
lists, ask every key they meet for its lower case, and hand a tuple on as it is, while `json.dumps` writes a tuple as
it writes a list and a key of another type as text.  So the details are redacted exactly when the dictionaries that
are walked have `str` keys only and the tuples that are met have no credential key inside (`redacted_iff_walked`).

On plain JSON, without tuples and with `str` keys, this is the redaction of the envelope (`redactValue_ofJson`), and
`api_error` is the one that the exception handlers are modelled with (`apiError_ofEntries`).
-/

namespace CleanBackend

/-! ### JSON with hidden keys -/

namespace Json

variable (hidden : String → Bool) (mask : Json)

mutual

/-- Every value under a hidden key is the mask, at any depth. -/
def Masked : Json → Prop
  | arr items => MaskedItems items
  | obj entries => MaskedEntries entries
  | _ => True

def MaskedItems : List Json → Prop
  | [] => True
  | item :: items => Masked item ∧ MaskedItems items

def MaskedEntries : List (String × Json) → Prop
  | [] => True
  | (key, value) :: entries => (hidden key = true → value = mask) ∧ Masked value ∧ MaskedEntries entries

end

mutual

/-- The same, except for what is stored below hidden keys. -/
def AgreeOutside : Json → Json → Prop
  | arr items, arr items' => AgreeItems items items'
  | obj entries, obj entries' => AgreeEntries entries entries'
  | value, value' => value = value'

def AgreeItems : List Json → List Json → Prop
  | [], items' => items' = []
  | _ :: _, [] => False
  | item :: items, item' :: items' => AgreeOutside item item' ∧ AgreeItems items items'

def AgreeEntries : List (String × Json) → List (String × Json) → Prop
  | [], entries' => entries' = []
  | _ :: _, [] => False
  | (key, value) :: entries, (key', value') :: entries' =>
    key' = key ∧ (hidden key = true ∨ AgreeOutside value value') ∧ AgreeEntries entries entries'

end

end Json

/-! ### The redactor -/

def redacted : String := "[REDACTED]"

namespace PyData

mutual

/-- `redact_sensitive`, with `room` on the interpreter's stack for so many containers more.  `none` is an exception:
the `AttributeError` of `key.lower()` for a key that is no `str`, or a `RecursionError`.  The keys of a dictionary are
distinct, so that setting them in order in an empty one appends. -/
def redactSensitive (room : Nat) : List (PyKey × PyData) → Option (List (PyKey × PyData))
  | [] => some []
  | (.str key, value) :: details =>
    (if sensitiveKey key then some (.str redacted) else redactValue room value).bind fun value =>
      (redactSensitive room details).map fun safe => (.str key, value) :: safe
  | _ :: _ => Option.none

/-- `_redact_value` -/
def redactValue (room : Nat) : PyData → Option PyData
  | .dict entries => if room = 0 then Option.none else (redactSensitive (room - 1) entries).map .dict
  | .list items => if room = 0 then Option.none else (redactItems (room - 1) items).map .list
  | value => some value

def redactItems (room : Nat) : List PyData → Option (List PyData)
  | [] => some []
  | item :: items =>
    (redactValue room item).bind fun item => (redactItems room items).map fun items => item :: items

end

end PyData

/-- The rendered body of `api_error`; `none` where it raises. -/
def PyData.apiError (room : Nat) (requestId code message : String) (details : Option (List (PyKey × PyData)))
    (extra : PyDict String Json) : Option Json := do
  let safe ← PyData.redactSensitive room (details.getD [])
  let error := [("code", .str code), ("message", .str message), ("details", .obj (PyData.renderEntries safe))]
  pure (buildEnvelope requestId false .null (.obj error) extra)

/-! ### What is walked -/

namespace PyData

mutual

/-- The dictionaries the redactor walks have `str` keys, there is room for the containers it walks, and the tuples it
meets have no credential key inside. -/
def Walked (room : Nat) : PyData → Prop
  | dict entries => room ≠ 0 ∧ WalkedEntries (room - 1) entries
  | list items => room ≠ 0 ∧ WalkedItems (room - 1) items
  | tuple items => CleanItems sensitiveKey items
  | _ => True

def WalkedEntries (room : Nat) : List (PyKey × PyData) → Prop
  | [] => True
  | (key, value) :: entries =>
    (∃ s, key = .str s ∧ (sensitiveKey s = true ∨ Walked room value)) ∧ WalkedEntries room entries

def WalkedItems (room : Nat) : List PyData → Prop
  | [] => True
  | item :: items => Walked room item ∧ WalkedItems room items

end

variable {room : Nat}

/-- One entry, its key a `str` or not. -/
private theorem redactSensitive_cons {key : PyKey} {value : PyData} {entries safe : List (PyKey × PyData)} :
    redactSensitive room ((key, value) :: entries) = some safe ↔ ∃ s value' safe', key = .str s ∧
      (if sensitiveKey s then some (.str redacted) else redactValue room value) = some value' ∧
      redactSensitive room entries = some safe' ∧ safe = (.str s, value') :: safe' := by
  cases key with
  | str s =>
    simp only [redactSensitive, Option.bind_eq_some_iff, Option.map_eq_some_iff]
    constructor
    · rintro ⟨value', hv, safe', hs, rfl⟩
      exact ⟨s, value', safe', rfl, hv, hs, rfl⟩
    · rintro ⟨_, value', safe', ⟨⟩, hv, hs, rfl⟩
      exact ⟨value', hv, safe', hs, rfl⟩
  | _ => simp [redactSensitive]

private theorem redactItems_cons {item : PyData} {items safe : List PyData} :
    redactItems room (item :: items) = some safe ↔ ∃ item' safe', redactValue room item = some item' ∧
      redactItems room items = some safe' ∧ safe = item' :: safe' := by
  simp only [redactItems, Option.bind_eq_some_iff, Option.map_eq_some_iff]
  constructor
  · rintro ⟨item', hi, safe', hs, rfl⟩
    exact ⟨item', safe', hi, hs, rfl⟩
  · rintro ⟨item', safe', hi, hs, rfl⟩
    exact ⟨item', hi, safe', hs, rfl⟩

private theorem redactValue_dict {entries : List (PyKey × PyData)} {safe : PyData} :
    redactValue room (dict entries) = some safe ↔
      room ≠ 0 ∧ ∃ entries', redactSensitive (room - 1) entries = some entries' ∧ safe = dict entries' := by
  rw [redactValue]
  by_cases h : room = 0
  · simp [h]
  · rw [if_neg h, Option.map_eq_some_iff]
    simp [h, eq_comm]

private theorem redactValue_list {items : List PyData} {safe : PyData} :
    redactValue room (list items) = some safe ↔
      room ≠ 0 ∧ ∃ items', redactItems (room - 1) items = some items' ∧ safe = list items' := by
  rw [redactValue]
  by_cases h : room = 0
  · simp [h]
  · rw [if_neg h, Option.map_eq_some_iff]
    simp [h, eq_comm]

private theorem redactValue_scalar {value : PyData} (h : value.isScalar) : redactValue room value = some value := by
  cases value with
  | list _ | tuple _ | dict _ => cases h
  | _ => simp only [redactValue]

@[simp] theorem redactValue_tuple (items : List PyData) : redactValue room (tuple items) = some (tuple items) := by
  simp only [redactValue]

/-- What is walked is redacted without an exception. -/
private theorem redact_of_walked :
    (∀ value room, Walked room value → ∃ safe, redactValue room value = some safe) ∧
    (∀ items room, WalkedItems room items → ∃ safe, redactItems room items = some safe) ∧
    ∀ entries room, WalkedEntries room entries → ∃ safe, redactSensitive room entries = some safe := by
  apply PyData.induction
  case scalar => exact fun value hs room _ => ⟨value, redactValue_scalar hs⟩
  case list =>
    intro items ih room hw
    simp only [Walked] at hw
    obtain ⟨safe, hsafe⟩ := ih (room - 1) hw.2
    exact ⟨_, redactValue_list.2 ⟨hw.1, safe, hsafe, rfl⟩⟩
  case dict =>
    intro entries ih room hw
    simp only [Walked] at hw
    obtain ⟨safe, hsafe⟩ := ih (room - 1) hw.2
    exact ⟨_, redactValue_dict.2 ⟨hw.1, safe, hsafe, rfl⟩⟩
  case tuple => exact fun items _ room _ => ⟨tuple items, redactValue_tuple items⟩
  case nil => exact fun room _ => ⟨[], by simp only [redactItems]⟩
  case noEntry => exact fun room _ => ⟨[], by simp only [redactSensitive]⟩
  case cons =>
    intro item items ih ihs room hw
    simp only [WalkedItems] at hw
    obtain ⟨item', hi⟩ := ih room hw.1
    obtain ⟨items', his⟩ := ihs room hw.2
    exact ⟨_, redactItems_cons.2 ⟨item', items', hi, his, rfl⟩⟩
  case entry =>
    intro key value entries ih ihs room hw
    simp only [WalkedEntries] at hw
    obtain ⟨⟨s, rfl, hv⟩, hes⟩ := hw
    obtain ⟨safe, hsafe⟩ := ihs room hes
    by_cases hs : sensitiveKey s = true
    · exact ⟨_, redactSensitive_cons.2 ⟨s, _, safe, rfl, if_pos hs, hsafe, rfl⟩⟩
    · obtain ⟨value', hv'⟩ := ih room (hv.resolve_left hs)
      exact ⟨_, redactSensitive_cons.2 ⟨s, value', safe, rfl, by rw [if_neg hs, hv'], hsafe, rfl⟩⟩

/-- Only values without credential keys inside tuples differ nowhere but where the redactor masks. -/
private theorem redact_agree :
    (∀ value room, Walked room value → ∀ value', AgreeOutside sensitiveKey value value' →
      redactValue room value' = redactValue room value) ∧
    (∀ items room, WalkedItems room items → ∀ items', AgreeItems sensitiveKey items items' →
      redactItems room items' = redactItems room items) ∧
    ∀ entries room, WalkedEntries room entries → ∀ entries', AgreeEntries sensitiveKey entries entries' →
      redactSensitive room entries' = redactSensitive room entries := by
  apply PyData.induction
  case scalar =>
    intro value hs _ _ value' ha
    cases value with
    | list _ | tuple _ | dict _ => cases hs
    | _ =>
      simp only [AgreeOutside] at ha
      rw [ha]
  case list | dict =>
    intro inner ih room hw value' ha
    cases value' <;> simp only [AgreeOutside, Walked, reduceCtorEq] at hw ha
    rw [redactValue, redactValue, ih (room - 1) hw.2 _ ha]
  case tuple =>
    intro items _ _ hw value' ha
    cases value' <;> simp only [AgreeOutside, Walked, reduceCtorEq] at hw ha
    rw [eq_of_agree.2.1 items hw _ ha]
  case nil | noEntry =>
    intro _ _ inner' ha
    simp only [AgreeItems, AgreeEntries] at ha
    rw [ha]
  case cons =>
    intro item items ih ihs room hw items' ha
    cases items' with
    | nil => simp only [AgreeItems] at ha
    | cons item' items' =>
      simp only [WalkedItems] at hw
      simp only [AgreeItems] at ha
      rw [redactItems, redactItems, ih room hw.1 _ ha.1, ihs room hw.2 _ ha.2]
  case entry =>
    intro key value entries ih ihs room hw entries' ha
    cases entries' with
    | nil => simp only [AgreeEntries] at ha
    | cons entry' entries' =>
      obtain ⟨key', value'⟩ := entry'
      simp only [WalkedEntries] at hw
      simp only [AgreeEntries] at ha
      obtain ⟨⟨s, rfl, hv⟩, hes⟩ := hw
      obtain ⟨rfl, hv', hes'⟩ := ha
      rw [redactSensitive, redactSensitive, ihs room hes _ hes']
      by_cases hs : sensitiveKey s = true
      · rw [if_pos hs, if_pos hs]
      · rw [if_neg hs, if_neg hs, ih room (hv.resolve_left hs) _ (hv'.resolve_left hs)]

/-- What can be redacted, and cannot be told from its perturbation afterwards, is walked. -/
private theorem walked_of_perturb :
    (∀ value room safe safe', redactValue room value = some safe →
      redactValue room (perturb sensitiveKey value) = some safe' → render safe' = render safe → Walked room value) ∧
    (∀ items room safe safe', redactItems room items = some safe →
      redactItems room (perturbItems sensitiveKey items) = some safe' → renderItems safe' = renderItems safe →
      WalkedItems room items) ∧
    ∀ entries room safe safe', redactSensitive room entries = some safe →
      redactSensitive room (perturbEntries sensitiveKey entries) = some safe' →
      renderEntries safe' = renderEntries safe → WalkedEntries room entries := by
  apply PyData.induction
  case scalar =>
    intro value hs _ _ _ _ _ _
    cases value with
    | list _ | tuple _ | dict _ => cases hs
    | _ => simp only [Walked]
  case list =>
    intro items ih room safe safe' h h' heq
    obtain ⟨hroom, items₁, h₁, rfl⟩ := redactValue_list.1 h
    obtain ⟨-, items₂, h₂, rfl⟩ := redactValue_list.1 (by simpa only [perturb] using h')
    simp only [render, Json.arr.injEq] at heq
    simp only [Walked]
    exact ⟨hroom, ih (room - 1) items₁ items₂ h₁ h₂ heq⟩
  case dict =>
    intro entries ih room safe safe' h h' heq
    obtain ⟨hroom, entries₁, h₁, rfl⟩ := redactValue_dict.1 h
    obtain ⟨-, entries₂, h₂, rfl⟩ := redactValue_dict.1 (by simpa only [perturb] using h')
    simp only [render, Json.obj.injEq] at heq
    simp only [Walked]
    exact ⟨hroom, ih (room - 1) entries₁ entries₂ h₁ h₂ heq⟩
  case tuple =>
    -- the redactor hands the tuple on
    intro items _ room safe safe' h h' heq
    simp only [perturb, redactValue_tuple, Option.some.injEq] at h h'
    subst h h'
    simp only [render, Json.arr.injEq] at heq
    simpa only [Walked] using perturb_render.2.1 items heq
  case nil => simp only [WalkedItems, implies_true]
  case noEntry => simp only [WalkedEntries, implies_true]
  case cons =>
    intro item items ih ihs room safe safe' h h' heq
    obtain ⟨item₁, items₁, h₁, hs₁, rfl⟩ := redactItems_cons.1 h
    obtain ⟨item₂, items₂, h₂, hs₂, rfl⟩ := redactItems_cons.1 h'
    simp only [renderItems, List.cons.injEq] at heq
    simp only [WalkedItems]
    exact ⟨ih room item₁ item₂ h₁ h₂ heq.1, ihs room items₁ items₂ hs₁ hs₂ heq.2⟩
  case entry =>
    intro key value entries ih ihs room safe safe' h h' heq
    obtain ⟨s, value₁, entries₁, rfl, h₁, hs₁, rfl⟩ := redactSensitive_cons.1 h
    obtain ⟨_, value₂, entries₂, ⟨⟩, h₂, hs₂, rfl⟩ := redactSensitive_cons.1 h'
    simp only [renderEntries, List.cons.injEq, Prod.mk.injEq, true_and] at heq
    simp only [WalkedEntries]
    refine ⟨⟨s, rfl, ?_⟩, ihs room entries₁ entries₂ hs₁ hs₂ heq.2⟩
    by_cases hs : sensitiveKey s = true
    · exact Or.inl hs
    · rw [if_neg hs] at h₁ h₂
      rw [if_neg (by simpa only [PyKey.text] using hs)] at h₂
      exact Or.inr (ih room value₁ value₂ h₁ h₂ heq.1)

/-! ### What is rendered -/

/-- Without hidden keys every mask will do. -/
private theorem masked_of_clean {hidden : String → Bool} {mask : Json} :
    (∀ value, Clean hidden value → Json.Masked hidden mask (render value)) ∧
    (∀ items, CleanItems hidden items → Json.MaskedItems hidden mask (renderItems items)) ∧
    ∀ entries, CleanEntries hidden entries → Json.MaskedEntries hidden mask (renderEntries entries) := by
  apply PyData.induction
  case scalar =>
    intro value hs _
    cases value with
    | list _ | tuple _ | dict _ => cases hs
    | _ => simp only [render, Json.Masked]
  case list | tuple | dict =>
    intro inner ih hc
    simp only [Clean] at hc
    simpa only [render, Json.Masked] using ih hc
  case nil => simp only [renderItems, Json.MaskedItems, implies_true]
  case noEntry => simp only [renderEntries, Json.MaskedEntries, implies_true]
  case cons =>
    intro item items ih ihs hc
    simp only [CleanItems] at hc
    simp only [renderItems, Json.MaskedItems]
    exact ⟨ih hc.1, ihs hc.2⟩
  case entry =>
    intro key value entries ih ihs hc
    simp only [CleanEntries] at hc
    simp only [renderEntries, Json.MaskedEntries, hc.1, Bool.false_eq_true, false_implies, true_and]
    exact ⟨ih hc.2.1, ihs hc.2.2⟩

/-- What was walked renders masked. -/
private theorem masked_of_walked :
    (∀ value room, Walked room value → ∀ safe, redactValue room value = some safe →
      Json.Masked sensitiveKey (.str redacted) (render safe)) ∧
    (∀ items room, WalkedItems room items → ∀ safe, redactItems room items = some safe →
      Json.MaskedItems sensitiveKey (.str redacted) (renderItems safe)) ∧
    ∀ entries room, WalkedEntries room entries → ∀ safe, redactSensitive room entries = some safe →
      Json.MaskedEntries sensitiveKey (.str redacted) (renderEntries safe) := by
  apply PyData.induction
  case scalar =>
    intro value hs _ _ safe h
    rw [redactValue_scalar hs, Option.some.injEq] at h
    subst h
    cases value with
    | list _ | tuple _ | dict _ => cases hs
    | _ => simp only [render, Json.Masked]
  case list =>
    intro items ih room hw safe h
    obtain ⟨-, items', h', rfl⟩ := redactValue_list.1 h
    simp only [Walked] at hw
    simpa only [render, Json.Masked] using ih (room - 1) hw.2 items' h'
  case dict =>
    intro entries ih room hw safe h
    obtain ⟨-, entries', h', rfl⟩ := redactValue_dict.1 h
    simp only [Walked] at hw
    simpa only [render, Json.Masked] using ih (room - 1) hw.2 entries' h'
  case tuple =>
    intro items _ room hw safe h
    rw [redactValue_tuple, Option.some.injEq] at h
    subst h
    simp only [Walked] at hw
    -- a tuple is not entered, so nothing in it may need masking
    simpa only [render, Json.Masked] using masked_of_clean.2.1 items hw
  case nil =>
    intro _ _ safe h
    simp only [redactItems, Option.some.injEq] at h
    subst h
    simp only [renderItems, Json.MaskedItems]
  case noEntry =>
    intro _ _ safe h
    simp only [redactSensitive, Option.some.injEq] at h
    subst h
    simp only [renderEntries, Json.MaskedEntries]
  case cons =>
    intro item items ih ihs room hw safe h
    obtain ⟨item', items', hi, his, rfl⟩ := redactItems_cons.1 h
    simp only [WalkedItems] at hw
    simp only [renderItems, Json.MaskedItems]
    exact ⟨ih room hw.1 _ hi, ihs room hw.2 _ his⟩
  case entry =>
    intro key value entries ih ihs room hw safe h
    obtain ⟨s, value', entries', rfl, hv, hes, rfl⟩ := redactSensitive_cons.1 h
    simp only [WalkedEntries, PyKey.str.injEq, exists_eq_left'] at hw
    simp only [renderEntries, Json.MaskedEntries, PyKey.text]
    -- a credential key is masked whatever its value is
    by_cases hs : sensitiveKey s = true
    · rw [if_pos hs] at hv
      cases hv
      refine ⟨fun _ => by simp only [render], by simp only [render, Json.Masked], ihs room hw.2 _ hes⟩
    · rw [if_neg hs] at hv
      exact ⟨fun h => absurd h hs, ih room (hw.1.resolve_left hs) _ hv, ihs room hw.2 _ hes⟩

/-- A value renders as one that agrees with it everywhere. -/
private theorem render_agree (hidden : String → Bool) :
    (∀ value, (render value).AgreeOutside hidden (render value)) ∧
    (∀ items, Json.AgreeItems hidden (renderItems items) (renderItems items)) ∧
    ∀ entries, Json.AgreeEntries hidden (renderEntries entries) (renderEntries entries) := by
  apply PyData.induction
  case scalar =>
    intro value hs
    cases value with
    | list _ | tuple _ | dict _ => cases hs
    | _ => simp only [render, Json.AgreeOutside]
  case list | tuple | dict =>
    intro inner ih
    simpa only [render, Json.AgreeOutside] using ih
  case nil => simp only [renderItems, Json.AgreeItems]
  case noEntry => simp only [renderEntries, Json.AgreeEntries]
  case cons =>
    intro item items ih ihs
    simp only [renderItems, Json.AgreeItems]
    exact ⟨ih, ihs⟩
  case entry =>
    intro key value entries ih ihs
    simp only [renderEntries, Json.AgreeEntries]
    exact ⟨trivial, Or.inr ih, ihs⟩

/-- Nothing is changed that is not below a credential key. -/
private theorem redact_unchanged :
    (∀ value room safe, redactValue room value = some safe →
      (render value).AgreeOutside sensitiveKey (render safe)) ∧
    (∀ items room safe, redactItems room items = some safe →
      Json.AgreeItems sensitiveKey (renderItems items) (renderItems safe)) ∧
    ∀ entries room safe, redactSensitive room entries = some safe →
      Json.AgreeEntries sensitiveKey (renderEntries entries) (renderEntries safe) := by
  apply PyData.induction
  case scalar =>
    intro value hs room safe h
    rw [redactValue_scalar hs, Option.some.injEq] at h
    subst h
    exact (render_agree sensitiveKey).1 value
  case list =>
    intro items ih room safe h
    obtain ⟨-, items', h', rfl⟩ := redactValue_list.1 h
    simpa only [render, Json.AgreeOutside] using ih (room - 1) items' h'
  case dict =>
    intro entries ih room safe h
    obtain ⟨-, entries', h', rfl⟩ := redactValue_dict.1 h
    simpa only [render, Json.AgreeOutside] using ih (room - 1) entries' h'
  case tuple =>
    intro items _ room safe h
    rw [redactValue_tuple, Option.some.injEq] at h
    subst h
    exact (render_agree sensitiveKey).1 (tuple items)
  case nil =>
    intro room safe h
    simp only [redactItems, Option.some.injEq] at h
    subst h
    simp only [renderItems, Json.AgreeItems]
  case noEntry =>
    intro room safe h
    simp only [redactSensitive, Option.some.injEq] at h
    subst h
    simp only [renderEntries, Json.AgreeEntries]
  case cons =>
    intro item items ih ihs room safe h
    obtain ⟨item', items', hi, his, rfl⟩ := redactItems_cons.1 h
    simp only [renderItems, Json.AgreeItems]
    exact ⟨ih room _ hi, ihs room _ his⟩
  case entry =>
    intro key value entries ih ihs room safe h
    obtain ⟨s, value', entries', rfl, hv, hes, rfl⟩ := redactSensitive_cons.1 h
    simp only [renderEntries, Json.AgreeEntries, PyKey.text]
    refine ⟨trivial, ?_, ihs room _ hes⟩
    -- below a credential key the two may differ
    by_cases hs : sensitiveKey s = true
    · exact Or.inl hs
    · rw [if_neg hs] at hv
      exact Or.inr (ih room _ hv)

/-- Redacting again changes nothing. -/
private theorem redact_twice :
    (∀ value room safe, redactValue room value = some safe → redactValue room safe = some safe) ∧
    (∀ items room safe, redactItems room items = some safe → redactItems room safe = some safe) ∧
    ∀ entries room safe, redactSensitive room entries = some safe → redactSensitive room safe = some safe := by
  apply PyData.induction
  case scalar =>
    intro value hs room safe h
    rw [redactValue_scalar hs, Option.some.injEq] at h
    subst h
    exact redactValue_scalar hs
  case list =>
    intro items ih room safe h
    obtain ⟨hroom, items', h', rfl⟩ := redactValue_list.1 h
    exact redactValue_list.2 ⟨hroom, items', ih (room - 1) items' h', rfl⟩
  case dict =>
    intro entries ih room safe h
    obtain ⟨hroom, entries', h', rfl⟩ := redactValue_dict.1 h
    exact redactValue_dict.2 ⟨hroom, entries', ih (room - 1) entries' h', rfl⟩
  case tuple =>
    intro items _ room safe h
    rw [redactValue_tuple, Option.some.injEq] at h
    subst h
    exact redactValue_tuple items
  case nil | noEntry =>
    intro room safe h
    simp only [redactItems, redactSensitive, Option.some.injEq] at h
    subst h
    simp only [redactItems, redactSensitive]
  case cons =>
    intro item items ih ihs room safe h
    obtain ⟨item', items', hi, his, rfl⟩ := redactItems_cons.1 h
    exact redactItems_cons.2 ⟨item', items', ih room _ hi, ihs room _ his, rfl⟩
  case entry =>
    intro key value entries ih ihs room safe h
    obtain ⟨s, value', entries', rfl, hv, hes, rfl⟩ := redactSensitive_cons.1 h
    refine redactSensitive_cons.2 ⟨s, value', entries', rfl, ?_, ihs room _ hes, rfl⟩
    by_cases hs : sensitiveKey s = true
    · rwa [if_pos hs] at hv ⊢
    · rw [if_neg hs] at hv ⊢
      exact ih room _ hv

end PyData

/-! ### `api_error` -/

/-- The body of `api_error` with the details as they are shown. -/
def errorBody (requestId code message : String) (shown : List (String × Json)) (extra : PyDict String Json) : Json :=
  buildEnvelope requestId false .null
    (.obj [("code", .str code), ("message", .str message), ("details", .obj shown)]) extra

/-- What redaction is for: the body is rendered, with every value under a credential key masked and all others as they
were; details that differ only below such keys render alike; and redacting again changes nothing. -/
structure Redacted (room : Nat) (requestId code message : String) (extra : PyDict String Json)
    (details : List (PyKey × PyData)) : Prop where
  shown : ∃ safe, PyData.apiError room requestId code message (some details) extra =
      some (errorBody requestId code message (PyData.renderEntries safe) extra) ∧
    Json.MaskedEntries sensitiveKey (.str redacted) (PyData.renderEntries safe) ∧
    Json.AgreeEntries sensitiveKey (PyData.renderEntries details) (PyData.renderEntries safe) ∧
    PyData.redactSensitive room details = some safe ∧ PyData.redactSensitive room safe = some safe
  alike : ∀ details', PyData.AgreeEntries sensitiveKey details details' →
    PyData.apiError room requestId code message (some details') extra =
      PyData.apiError room requestId code message (some details) extra

private theorem apiError_eq_some {room : Nat} {requestId code message : String} {details : List (PyKey × PyData)}
    {extra : PyDict String Json} {body : Json} :
    PyData.apiError room requestId code message (some details) extra = some body ↔
      ∃ safe, PyData.redactSensitive room details = some safe ∧
        body = errorBody requestId code message (PyData.renderEntries safe) extra := by
  simp only [PyData.apiError, Option.getD_some, Option.bind_eq_bind, Option.bind_eq_some_iff, Option.pure_def,
    Option.some.injEq, errorBody]
  constructor
  · rintro ⟨safe, hs, rfl⟩
    exact ⟨safe, hs, rfl⟩
  · rintro ⟨safe, hs, rfl⟩
    exact ⟨safe, hs, rfl⟩

private theorem errorBody_inj {requestId code message : String} {shown shown' : List (String × Json)}
    {extra : PyDict String Json}
    (h : errorBody requestId code message shown extra = errorBody requestId code message shown' extra) :
    shown = shown' := by
  simpa [errorBody, buildEnvelope] using h

/-- The details are redacted exactly when what is walked can be: every dictionary reached through dictionaries and
lists, and not below a credential key, has `str` keys only, no tuple so reached has a credential key inside, and the
containers are not nested deeper than the stack has room for. -/
theorem redacted_iff_walked (room : Nat) (requestId code message : String) (extra : PyDict String Json)
    (details : List (PyKey × PyData)) :
    Redacted room requestId code message extra details ↔ PyData.WalkedEntries room details := by
  constructor
  · rintro ⟨⟨safe, hbody, -, -, hsafe, -⟩, halike⟩
    have hperturb := halike _ (PyData.agree_perturb.2.2 details)
    rw [hbody] at hperturb
    obtain ⟨safe', hsafe', heq⟩ := apiError_eq_some.1 hperturb
    exact PyData.walked_of_perturb.2.2 details room safe safe' hsafe hsafe' (errorBody_inj heq).symm
  · intro hw
    obtain ⟨safe, hsafe⟩ := PyData.redact_of_walked.2.2 details room hw
    refine ⟨⟨safe, apiError_eq_some.2 ⟨safe, hsafe, rfl⟩, PyData.masked_of_walked.2.2 details room hw safe hsafe,
      PyData.redact_unchanged.2.2 details room safe hsafe, hsafe,
      PyData.redact_twice.2.2 details room safe hsafe⟩, ?_⟩
    intro details' ha
    simp only [PyData.apiError, Option.getD_some, PyData.redact_agree.2.2 details room hw details' ha]

/-- A tuple is handed on with the token inside, and a key that is no `str` raises. -/
theorem tuple_leaks_token :
    PyData.apiError 100 "r1" "CONFLICT" "boom"
        (some [(.str "items", .tuple [.dict [(.str "token", .str "leak")]])]) [] =
      some (errorBody "r1" "CONFLICT" "boom" [("items", .arr [.obj [("token", .str "leak")]])] []) ∧
    PyData.apiError 100 "r1" "CONFLICT" "boom" (some [(.str "counts", .dict [(.int 7, .str "keep-me")])])
      [] = none := by
  have hitems : sensitiveKey "items" = false := by decide
  have hcounts : sensitiveKey "counts" = false := by decide
  constructor
  · simp [PyData.apiError, PyData.redactSensitive, PyData.redactValue, hitems]
    rfl
  · simp [PyData.apiError, PyData.redactSensitive, PyData.redactValue, hcounts]

/-! ### Plain JSON -/

namespace PyData

mutual

/-- The value `json.loads` reads. -/
def ofJson : Json → PyData
  | .null => none
  | .bool b => bool b
  | .num mantissa exponent => float mantissa exponent
  | .str s => str s
  | .arr items => list (ofItems items)
  | .obj entries => dict (ofEntries entries)

def ofItems : List Json → List PyData
  | [] => []
  | item :: items => ofJson item :: ofItems items

def ofEntries : List (String × Json) → List (PyKey × PyData)
  | [] => []
  | (key, value) :: entries => (.str key, ofJson value) :: ofEntries entries

end

mutual

/-- Where the stack has room, plain JSON is redacted as the envelope redacts it. -/
theorem redactValue_ofJson : ∀ value, ∃ n, ∀ room, n ≤ room →
    redactValue room (ofJson value) = some (ofJson (CleanBackend.redactValue value))
  | .obj entries => by
    obtain ⟨n, hn⟩ := redactSensitive_ofEntries entries
    refine ⟨n + 1, fun room hroom => ?_⟩
    rw [ofJson, CleanBackend.redactValue, ofJson]
    exact redactValue_dict.2 ⟨by omega, _, hn (room - 1) (by omega), rfl⟩
  | .arr items => by
    obtain ⟨n, hn⟩ := redactItems_ofItems items
    refine ⟨n + 1, fun room hroom => ?_⟩
    rw [ofJson, CleanBackend.redactValue, ofJson]
    exact redactValue_list.2 ⟨by omega, _, hn (room - 1) (by omega), rfl⟩
  | .null | .bool _ | .num _ _ | .str _ => ⟨0, fun _ _ => redactValue_scalar rfl⟩

private theorem redactItems_ofItems : ∀ items, ∃ n, ∀ room, n ≤ room →
    redactItems room (ofItems items) = some (ofItems (CleanBackend.redactItems items))
  | [] => ⟨0, fun _ _ => by simp only [ofItems, redactItems, CleanBackend.redactItems]⟩
  | item :: items => by
    obtain ⟨n, hn⟩ := redactValue_ofJson item
    obtain ⟨m, hm⟩ := redactItems_ofItems items
    exact ⟨n + m, fun room hroom =>
      redactItems_cons.2 ⟨_, _, hn room (by omega), hm room (by omega), rfl⟩⟩

private theorem redactSensitive_ofEntries : ∀ entries, ∃ n, ∀ room, n ≤ room →
    redactSensitive room (ofEntries entries) = some (ofEntries (CleanBackend.redactSensitive entries))
  | [] => ⟨0, fun _ _ => by simp only [ofEntries, redactSensitive, CleanBackend.redactSensitive]⟩
  | (key, value) :: entries => by
    let value' := if sensitiveKey key then .str redacted else CleanBackend.redactValue value
    obtain ⟨n, hn⟩ := redactValue_ofJson value
    obtain ⟨m, hm⟩ := redactSensitive_ofEntries entries
    refine ⟨n + m, fun room hroom =>
      redactSensitive_cons.2 ⟨key, ofJson value', _, rfl, ?_, hm room (by omega), rfl⟩⟩
    by_cases hs : sensitiveKey key = true
    · simp only [value', if_pos hs, ofJson]
    · simp only [value', if_neg hs]
      exact hn room (by omega)

end

mutual

private theorem render_ofJson : ∀ value, render (ofJson value) = value
  | .obj entries => by rw [ofJson, render, renderEntries_ofEntries entries]
  | .arr items => by rw [ofJson, render, renderItems_ofItems items]
  | .null | .bool _ | .num _ _ | .str _ => rfl

private theorem renderItems_ofItems : ∀ items, renderItems (ofItems items) = items
  | [] => rfl
  | item :: items => by rw [ofItems, renderItems, render_ofJson item, renderItems_ofItems items]

private theorem renderEntries_ofEntries : ∀ entries, renderEntries (ofEntries entries) = entries
  | [] => rfl
  | (key, value) :: entries => by
    rw [ofEntries, renderEntries, render_ofJson value, renderEntries_ofEntries entries]
    rfl

end

end PyData

/-- On details that are plain JSON `api_error` is the one the exception handlers are modelled with. -/
theorem apiError_ofEntries (requestId code message : String) (details extra : PyDict String Json) :
    ∃ n, ∀ room, n ≤ room → PyData.apiError room requestId code message (some (PyData.ofEntries details)) extra =
      some (apiError requestId code message details extra) := by
  obtain ⟨n, hn⟩ := PyData.redactSensitive_ofEntries details
  refine ⟨n, fun room hroom => apiError_eq_some.2 ⟨_, hn room hroom, ?_⟩⟩
  rw [PyData.renderEntries_ofEntries]
  rfl

end CleanBackend
