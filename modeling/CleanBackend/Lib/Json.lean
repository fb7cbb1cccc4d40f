import CleanBackend.Lib.PyDict

/-!
# JSON values

A parsed JSON document as Python sees it.  A number is a decimal `mantissa * 10 ^ exponent`.
-/

namespace CleanBackend

inductive Json where
  | null
  | bool (b : Bool)
  | num (mantissa : Int) (exponent : Int)
  | str (s : String)
  | arr (items : List Json)
  | obj (entries : List (String × Json))
  deriving Repr

namespace Json

/-- Neither a list nor a dictionary. -/
def isScalar : Json → Bool
  | arr _ | obj _ => false
  | _ => true

/-- Induction over a value, its lists and its dictionaries at once. -/
theorem induction {P : Json → Prop} {Q : List Json → Prop} {R : List (String × Json) → Prop}
    (scalar : ∀ value, value.isScalar → P value) (arr : ∀ items, Q items → P (arr items))
    (obj : ∀ entries, R entries → P (obj entries)) (nil : Q [])
    (cons : ∀ item items, P item → Q items → Q (item :: items))
    (noEntry : R []) (entry : ∀ key value entries, P value → R entries → R ((key, value) :: entries)) :
    (∀ value, P value) ∧ (∀ items, Q items) ∧ ∀ entries, R entries := by
  have hall : ∀ value, P value := fun value =>
    Json.rec (motive_1 := P) (motive_2 := Q) (motive_3 := R) (motive_4 := fun entry => P entry.2)
      (scalar _ rfl) (fun _ => scalar _ rfl) (fun _ _ => scalar _ rfl) (fun _ => scalar _ rfl) arr obj
        nil cons noEntry
      (fun ⟨key, value⟩ entries hv he => entry key value entries hv he) (fun _ _ hv => hv) value
  refine ⟨hall, fun items => ?_, fun entries => ?_⟩
  · induction items with
    | nil => exact nil
    | cons item items ih => exact cons item items (hall item) ih
  · induction entries with
    | nil => exact noEntry
    | cons e entries ih => exact entry e.1 e.2 entries (hall e.2) ih

/-- `value.get(key)`; a value that is not a dictionary has no `get`. -/
def get : Json → String → Option (Option Json)
  | obj entries, key => some (PyDict.get entries key)
  | _, _ => none

/-- `isinstance(value, str)` -/
def str? : Json → Option String
  | str s => some s
  | _ => none

end Json

end CleanBackend
