import Mathlib.Data.List.DropRight

/-!
# Python strings

A `str` is taken as its list of code points where it is split and stripped.
-/

namespace CleanBackend.PyStr

/-- The white space of `str.strip`. -/
def isSpace (c : Char) : Bool :=
  let n := c.toNat
  (9 ≤ n && n ≤ 13) || (28 ≤ n && n ≤ 32) || n == 0x85 || n == 0xa0 || n == 0x1680 || (0x2000 ≤ n && n ≤ 0x200a) ||
    n == 0x2028 || n == 0x2029 || n == 0x202f || n == 0x205f || n == 0x3000

/-- `s.strip()` -/
def strip (s : List Char) : List Char := (s.dropWhile isSpace).rdropWhile isSpace

/-- The parts of `s.split(sep)`, stripped, without the blank ones. -/
def fields (sep : Char) (s : List Char) : List (List Char) := ((s.splitOn sep).map strip).filter (· ≠ [])

/-- The lower case of a character, as far as ASCII text is concerned: besides the ASCII capitals only the Kelvin sign
and the dotted capital I have ASCII letters in it. -/
def lowerChar (c : Char) : List Char :=
  if c = '\u212a' then ['k'] else if c = '\u0130' then ['i', '\u0307'] else [c.toLower]

/-- `s.lower()`, for a search of ASCII text in it. -/
def lower (s : List Char) : List Char := s.flatMap lowerChar

variable {sep c : Char} {s : List Char}

private theorem strip_cons_space (h : isSpace c) (s : List Char) : strip (c :: s) = strip s := by
  simp [strip, h]

@[simp] theorem fields_nil (sep : Char) : fields sep [] = [] := by simp [fields, strip]

/-- A separator divides the fields. -/
theorem fields_append (sep : Char) (a b : List Char) : fields sep (a ++ sep :: b) = fields sep a ++ fields sep b := by
  unfold fields
  rw [List.splitOn_append_cons_self, List.map_append, List.filter_append]

/-- White space in front is no part of the first field. -/
private theorem fields_cons_space (h : isSpace c) (hsep : c ≠ sep) (s : List Char) :
    fields sep (c :: s) = fields sep s := by
  unfold fields
  rw [List.splitOn_cons_eq_if_modifyHead, if_neg (by simpa using hsep)]
  cases hs : s.splitOn sep with
  | nil => exact absurd hs (List.splitOn_ne_nil sep s)
  | cons part parts =>
    rw [List.modifyHead_cons, List.map_cons, strip_cons_space h, List.map_cons]

/-- The fields of lines joined by a comma and a blank are the fields of the lines. -/
theorem fields_join (lines : List (List Char)) :
    fields ',' ([',', ' '].intercalate lines) = lines.flatMap (fields ',') := by
  induction lines with
  | nil => simp
  | cons line lines ih =>
    cases lines with
    | nil => simp
    | cons line' lines =>
      have hspace : isSpace ' ' := by decide
      rw [List.intercalate_cons_cons, List.flatMap_cons, ← ih]
      rw [show line ++ [',', ' '] ++ [',', ' '].intercalate (line' :: lines) =
        line ++ ',' :: ' ' :: [',', ' '].intercalate (line' :: lines) by simp]
      rw [fields_append, fields_cons_space hspace (by decide)]

end CleanBackend.PyStr
