import Mathlib.Algebra.GroupWithZero.Nat
import Mathlib.Data.List.Basic
import Mathlib.Data.List.Forall2

/-!
# Python texts

A Python text is a sequence of code points, surrogates included.  A text without surrogates has a UTF-8 encoding,
which reads back (`PyText.ofUtf8_encode`), so that texts with the same encoding are the same (`PyText.encode_inj`).
The decoders are those of the `surrogatepass` error handler: an encoded surrogate is read as itself.
-/

namespace CleanBackend

abbrev CodePoint := Fin 0x110000

instance CodePoint.instNeZero : NeZero 0x110000 := ⟨by decide⟩

abbrev PyText := List CodePoint

namespace CodePoint

def ofNat (n : Nat) : CodePoint := Fin.ofNat 0x110000 n

def ofChar (c : Char) : CodePoint := ofNat c.toNat

def isHigh (c : CodePoint) : Bool := 0xD800 ≤ c.val && c.val ≤ 0xDBFF

def isLow (c : CodePoint) : Bool := 0xDC00 ≤ c.val && c.val ≤ 0xDFFF

def isSurrogate (c : CodePoint) : Bool := 0xD800 ≤ c.val && c.val ≤ 0xDFFF

/-- The code point of a surrogate pair. -/
def join (high low : CodePoint) : CodePoint := ofNat (0x10000 + (high.val - 0xD800) * 0x400 + (low.val - 0xDC00))

theorem val_ofNat {n : Nat} (h : n < 0x110000) : (ofNat n).val = n := Nat.mod_eq_of_lt h

theorem ofNat_val (c : CodePoint) : ofNat c.val = c := Fin.ext (val_ofNat c.isLt)

private theorem char_lt (c : Char) : c.toNat < 0x110000 := by
  rcases c.valid with h | ⟨-, h⟩
  · exact Nat.lt_trans h (by decide)
  · exact h

theorem val_ofChar (c : Char) : (ofChar c).val = c.toNat := val_ofNat (char_lt c)

private theorem ofChar_inj {c d : Char} (h : ofChar c = ofChar d) : c = d := by
  have hval : c.toNat = d.toNat := by rw [← val_ofChar, h, val_ofChar]
  exact Char.toNat_inj.1 hval

theorem not_isSurrogate_ofChar (c : Char) : (ofChar c).isSurrogate = false := by
  have h := c.valid
  unfold isSurrogate
  rw [val_ofChar]
  have hne : ¬ (0xD800 ≤ c.toNat ∧ c.toNat ≤ 0xDFFF) := by
    rcases h with h | ⟨h, -⟩
    · exact fun hc => absurd (Nat.lt_of_le_of_lt hc.1 h) (by decide)
    · exact fun hc => absurd (Nat.lt_of_lt_of_le h hc.2) (by decide)
  simpa using hne

/-- The UTF-8 bytes of a code point, as if surrogates had any. -/
def utf8Bytes (c : CodePoint) : List UInt8 :=
  let n := c.val
  if n < 0x80 then [.ofNat n]
  else if n < 0x800 then [.ofNat (0xC0 + n / 0x40), .ofNat (0x80 + n % 0x40)]
  else if n < 0x10000 then
    [.ofNat (0xE0 + n / 0x1000), .ofNat (0x80 + n / 0x40 % 0x40), .ofNat (0x80 + n % 0x40)]
  else
    [.ofNat (0xF0 + n / 0x40000), .ofNat (0x80 + n / 0x1000 % 0x40), .ofNat (0x80 + n / 0x40 % 0x40),
      .ofNat (0x80 + n % 0x40)]

end CodePoint

namespace PyText

def ofString (s : String) : PyText := s.toList.map CodePoint.ofChar

theorem ofString_inj {s t : String} (h : ofString s = ofString t) : s = t := by
  have hinj : Function.Injective CodePoint.ofChar := fun _ _ => CodePoint.ofChar_inj
  exact String.toList_inj.1 (hinj.list_map h)

/-- `text.encode("ascii")`, with `none` for a `UnicodeEncodeError` -/
def encodeAscii (t : PyText) : Option (List UInt8) :=
  t.mapM fun c => if c.val < 0x80 then some (UInt8.ofNat c.val) else none

/-- `text.encode()`, with `none` for a `UnicodeEncodeError` -/
def encode (t : PyText) : Option (List UInt8) :=
  if t.any CodePoint.isSurrogate then none else some (t.flatMap CodePoint.utf8Bytes)

/-- `data.decode("ascii")`, with `none` for a `UnicodeDecodeError` -/
def ofAscii (data : List UInt8) : Option PyText :=
  data.mapM fun b => if b.toNat < 0x80 then some (CodePoint.ofNat b.toNat) else none

/-! ### UTF-8 -/

/-- A byte that continues a sequence. -/
def isTail (b : UInt8) : Bool := 0x80 ≤ b.toNat && b.toNat < 0xC0

/-- `data.decode("utf-8", "surrogatepass")`, with `none` for a `UnicodeDecodeError` -/
def ofUtf8 : List UInt8 → Option PyText
  | [] => some []
  | a :: rest =>
    if a.toNat < 0x80 then (ofUtf8 rest).map (CodePoint.ofNat a.toNat :: ·)
    else if 0xC2 ≤ a.toNat ∧ a.toNat < 0xE0 then
      match rest with
      | b :: rest =>
        if isTail b then (ofUtf8 rest).map (CodePoint.ofNat (a.toNat % 0x20 * 0x40 + b.toNat % 0x40) :: ·) else none
      | [] => none
    else if 0xE0 ≤ a.toNat ∧ a.toNat < 0xF0 then
      match rest with
      | b :: c :: rest =>
        let n := a.toNat % 0x10 * 0x1000 + b.toNat % 0x40 * 0x40 + c.toNat % 0x40
        if isTail b ∧ isTail c ∧ 0x800 ≤ n then (ofUtf8 rest).map (CodePoint.ofNat n :: ·) else none
      | _ => none
    else if 0xF0 ≤ a.toNat ∧ a.toNat < 0xF5 then
      match rest with
      | b :: c :: d :: rest =>
        let n := a.toNat % 0x08 * 0x40000 + b.toNat % 0x40 * 0x1000 + c.toNat % 0x40 * 0x40 + d.toNat % 0x40
        if isTail b ∧ isTail c ∧ isTail d ∧ 0x10000 ≤ n ∧ n < 0x110000 then
          (ofUtf8 rest).map (CodePoint.ofNat n :: ·)
        else none
      | _ => none
    else none

private theorem toNat_byte {n : Nat} (h : n < 0x100) : (UInt8.ofNat n).toNat = n := Nat.mod_eq_of_lt h

/-- The byte that carries six bits. -/
private theorem toNat_tail (n : Nat) : (UInt8.ofNat (0x80 + n % 0x40)).toNat = 0x80 + n % 0x40 :=
  toNat_byte (by omega)

private theorem isTail_tail (n : Nat) : isTail (.ofNat (0x80 + n % 0x40)) = true := by
  unfold isTail
  rw [toNat_tail]
  simp only [Bool.and_eq_true, decide_eq_true_eq]
  omega

/-- The encoding of a code point reads as that code point; surrogates pass. -/
private theorem ofUtf8_utf8Bytes (c : CodePoint) (rest : List UInt8) :
    ofUtf8 (c.utf8Bytes ++ rest) = (ofUtf8 rest).map (c :: ·) := by
  have hlt : c.val < 0x110000 := c.isLt
  unfold CodePoint.utf8Bytes
  dsimp only
  split
  · rename_i h₁
    rw [List.cons_append, List.nil_append, ofUtf8.eq_def]
    dsimp only
    rw [toNat_byte (by omega), if_pos h₁, CodePoint.ofNat_val]
  · split
    · rw [List.cons_append, List.cons_append, List.nil_append, ofUtf8.eq_def]
      dsimp only
      rw [toNat_byte (by omega), toNat_tail, if_neg (by omega), if_pos (by omega), if_pos (isTail_tail _),
        show (0xC0 + c.val / 0x40) % 0x20 * 0x40 + (0x80 + c.val % 0x40) % 0x40 = c.val by omega, CodePoint.ofNat_val]
    · split
      · rw [List.cons_append, List.cons_append, List.cons_append, List.nil_append, ofUtf8.eq_def]
        dsimp only
        have hval : (0xE0 + c.val / 0x1000) % 0x10 * 0x1000 + (0x80 + c.val / 0x40 % 0x40) % 0x40 * 0x40 +
            (0x80 + c.val % 0x40) % 0x40 = c.val := by omega
        rw [toNat_byte (by omega), toNat_tail, toNat_tail, if_neg (by omega), if_neg (by omega),
          if_pos (by omega), hval, if_pos ⟨isTail_tail _, isTail_tail _, by omega⟩, CodePoint.ofNat_val]
      · rw [List.cons_append, List.cons_append, List.cons_append, List.cons_append, List.nil_append, ofUtf8.eq_def]
        dsimp only
        have hval : (0xF0 + c.val / 0x40000) % 0x08 * 0x40000 + (0x80 + c.val / 0x1000 % 0x40) % 0x40 * 0x1000 +
            (0x80 + c.val / 0x40 % 0x40) % 0x40 * 0x40 + (0x80 + c.val % 0x40) % 0x40 = c.val := by omega
        rw [toNat_byte (by omega), toNat_tail, toNat_tail, toNat_tail, if_neg (by omega), if_neg (by omega),
          if_neg (by omega), if_pos (by omega), hval,
          if_pos ⟨isTail_tail _, isTail_tail _, isTail_tail _, by omega, hlt⟩, CodePoint.ofNat_val]

private theorem ofUtf8_flatMap (t : PyText) : ofUtf8 (t.flatMap CodePoint.utf8Bytes) = some t := by
  induction t with
  | nil => rfl
  | cons c t ih => rw [List.flatMap_cons, ofUtf8_utf8Bytes, ih, Option.map_some]

/-- An encoding reads back. -/
theorem ofUtf8_encode {t : PyText} {data : List UInt8} (h : t.encode = some data) : ofUtf8 data = some t := by
  unfold encode at h
  split at h
  · cases h
  · cases h
    exact ofUtf8_flatMap t

/-- Texts with one encoding are one text. -/
theorem encode_inj {t u : PyText} {data : List UInt8} (ht : t.encode = some data)
    (hu : u.encode = some data) : t = u :=
  Option.some.inj ((ofUtf8_encode ht).symm.trans (ofUtf8_encode hu))

theorem encode_isSome (t : PyText) : t.encode.isSome = true ↔ ∀ c ∈ t, c.isSurrogate = false := by
  unfold encode
  split
  · rename_i h
    obtain ⟨c, hc, hs⟩ := List.any_eq_true.1 h
    refine iff_of_false (by simp) fun hall => ?_
    exact absurd (hs.symm.trans (hall c hc)) (by decide)
  · rename_i h
    refine iff_of_true rfl fun c hc => ?_
    exact Bool.eq_false_iff.2 fun hs => h (List.any_eq_true.2 ⟨c, hc, hs⟩)

/-! ### UTF-16 and UTF-32 -/

/-- The numbers of two bytes each, in the given byte order. -/
def units16 (big : Bool) : List UInt8 → Option (List Nat)
  | [] => some []
  | [_] => none
  | a :: b :: rest =>
    (units16 big rest).map ((if big then a.toNat * 0x100 + b.toNat else b.toNat * 0x100 + a.toNat) :: ·)

/-- Surrogate pairs are joined, and single surrogates pass. -/
def joinUnits : List Nat → PyText
  | [] => []
  | [u] => [CodePoint.ofNat u]
  | u :: v :: rest =>
    if (CodePoint.ofNat u).isHigh ∧ (CodePoint.ofNat v).isLow then
      CodePoint.join (CodePoint.ofNat u) (CodePoint.ofNat v) :: joinUnits rest
    else CodePoint.ofNat u :: joinUnits (v :: rest)

/-- `data.decode("utf-16-be", "surrogatepass")`, and `"utf-16-le"` -/
def ofUtf16 (big : Bool) (data : List UInt8) : Option PyText := (units16 big data).map joinUnits

/-- `data.decode("utf-32-be", "surrogatepass")`, and `"utf-32-le"` -/
def ofUtf32 (big : Bool) : List UInt8 → Option PyText
  | [] => some []
  | a :: b :: c :: d :: rest =>
    let n :=
      if big then ((a.toNat * 0x100 + b.toNat) * 0x100 + c.toNat) * 0x100 + d.toNat
      else ((d.toNat * 0x100 + c.toNat) * 0x100 + b.toNat) * 0x100 + a.toNat
    if n < 0x110000 then (ofUtf32 big rest).map (CodePoint.ofNat n :: ·) else none
  | _ => none

/-! ### ASCII -/

/-- A text of ASCII characters. -/
def IsAscii (t : PyText) : Prop := ∀ c ∈ t, c.val < 0x80

theorem isAscii_ofString {s : String} (h : s.toList.all (fun c => decide (c.toNat < 0x80)) = true) :
    (ofString s).IsAscii := by
  intro c hc
  obtain ⟨d, hd, rfl⟩ := List.mem_map.1 hc
  rw [CodePoint.val_ofChar]
  exact of_decide_eq_true (List.all_eq_true.1 h d hd)

theorem IsAscii.append {t u : PyText} (ht : t.IsAscii) (hu : u.IsAscii) : IsAscii (t ++ u) := fun c hc =>
  (List.mem_append.1 hc).elim (ht c) (hu c)

/-- ASCII texts have the same encoding in UTF-8. -/
theorem encode_of_isAscii {t : PyText} (h : t.IsAscii) : t.encode = some (t.map fun c => UInt8.ofNat c.val) := by
  have hsurrogate : t.any CodePoint.isSurrogate = false := by
    rw [List.any_eq_false]
    intro c hc
    have hlt := h c hc
    unfold CodePoint.isSurrogate
    simp only [Bool.and_eq_true, decide_eq_true_eq]
    omega
  unfold encode
  rw [hsurrogate, if_neg (by decide)]
  congr 1
  clear hsurrogate
  induction t with
  | nil => rfl
  | cons c t ih =>
    have hc := h c List.mem_cons_self
    rw [List.flatMap_cons, ih fun d hd => h d (List.mem_cons_of_mem c hd), List.map_cons]
    unfold CodePoint.utf8Bytes
    dsimp only
    rw [if_pos hc]
    rfl

end PyText

end CleanBackend
