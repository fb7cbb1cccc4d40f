import Mathlib.Algebra.Group.Nat.Defs
import Mathlib.Data.List.Basic

/-!
# Texts and bytes

UTF-8, and the hexadecimal texts of bytes and 128-bit numbers as PostgreSQL writes them (`encode(…, 'hex')`,
`uuid::text`) and as Python reads them (`bytes.fromhex`, `uuid.UUID`).  What is written reads back
(`decodeUtf8_utf8`, `bytesFromHex_encodeHex`, `parseUuid_uuidText`).
-/

namespace CleanBackend

/-- `text.encode('utf-8')` -/
def utf8 (text : String) : List UInt8 := text.toByteArray.data.toList

/-- `data.decode('utf-8')` -/
def decodeUtf8 (data : List UInt8) : Option String := String.fromUTF8? ⟨data.toArray⟩

theorem decodeUtf8_utf8 (text : String) : decodeUtf8 (utf8 text) = some text := by
  unfold decodeUtf8 utf8
  rw [Array.toArray_toList]
  exact dif_pos text.isValidUTF8

/-! ### Digits -/

def hexDigit (n : Nat) : Char := if n < 10 then Char.ofNat (48 + n) else Char.ofNat (87 + n)

/-- The value of a digit, in either case. -/
def hexVal (c : Char) : Option Nat :=
  if 48 ≤ c.toNat ∧ c.toNat ≤ 57 then some (c.toNat - 48)
  else if 97 ≤ c.toNat ∧ c.toNat ≤ 102 then some (c.toNat - 87)
  else if 65 ≤ c.toNat ∧ c.toNat ≤ 70 then some (c.toNat - 55)
  else none

private theorem hexVal_hexDigit {n : Nat} (h : n < 16) : hexVal (hexDigit n) = some n := by
  have hall : ∀ n < 16, hexVal (hexDigit n) = some n := by decide
  exact hall n h

/-- A digit is none of the separators of a UUID text, nor a blank. -/
private theorem hexDigit_ne {n : Nat} (h : n < 16) :
    hexDigit n ∉ ['-', ':', '{', '}'] ∧ (hexDigit n).isWhitespace = false := by
  have hall : ∀ n < 16, hexDigit n ∉ ['-', ':', '{', '}'] ∧ (hexDigit n).isWhitespace = false := by decide
  exact hall n h

/-! ### Bytes -/

def hexOfByte (b : UInt8) : List Char := [hexDigit (b.toNat / 16), hexDigit (b.toNat % 16)]

/-- `encode(bytes, 'hex')` -/
def encodeHex (bytes : List UInt8) : String := String.ofList (bytes.flatMap hexOfByte)

/-- Two digits a byte; blanks between the bytes are skipped. -/
def bytesOfHex : List Char → Option (List UInt8)
  | [] => some []
  | [c] => if c.isWhitespace then some [] else none
  | c :: d :: cs =>
    if c.isWhitespace then bytesOfHex (d :: cs)
    else
      match hexVal c, hexVal d, bytesOfHex cs with
      | some h, some l, some bytes => some (UInt8.ofNat (16 * h + l) :: bytes)
      | _, _, _ => none

/-- `bytes.fromhex(text)` -/
def bytesFromHex (text : String) : Option (List UInt8) := bytesOfHex text.toList

private theorem bytesOfHex_hexOfByte (b : UInt8) (cs : List Char) :
    bytesOfHex (hexOfByte b ++ cs) = (bytesOfHex cs).map (b :: ·) := by
  have hb : b.toNat < 256 := b.toNat_lt
  have hhi : b.toNat / 16 < 16 := by omega
  have hlo : b.toNat % 16 < 16 := Nat.mod_lt _ (by decide)
  have hval : UInt8.ofNat (16 * (b.toNat / 16) + b.toNat % 16) = b := by
    rw [Nat.div_add_mod]
    exact UInt8.ofNat_toNat
  simp only [hexOfByte, List.cons_append, List.nil_append, bytesOfHex, (hexDigit_ne hhi).2, Bool.false_eq_true,
    if_false, hexVal_hexDigit hhi, hexVal_hexDigit hlo]
  cases bytesOfHex cs with
  | none => rfl
  | some bytes => simp only [hval, Option.map_some]

theorem bytesFromHex_encodeHex (bytes : List UInt8) : bytesFromHex (encodeHex bytes) = some bytes := by
  unfold bytesFromHex encodeHex
  rw [String.toList_ofList]
  induction bytes with
  | nil => rfl
  | cons b bytes ih => rw [List.flatMap_cons, bytesOfHex_hexOfByte, ih, Option.map_some]

/-! ### Numbers -/

/-- `k` digits, the most significant first. -/
def hexOfNat : Nat → Nat → List Char
  | 0, _ => []
  | k + 1, n => hexOfNat k (n / 16) ++ [hexDigit (n % 16)]

/-- `int(text, 16)` -/
def natOfHex (cs : List Char) : Option Nat := cs.foldlM (fun n c => (hexVal c).map (16 * n + ·)) 0

private theorem length_hexOfNat (k n : Nat) : (hexOfNat k n).length = k := by
  induction k generalizing n with
  | zero => rfl
  | succ k ih => simp [hexOfNat, ih]

private theorem natOfHex_hexOfNat {k n : Nat} (h : n < 16 ^ k) : natOfHex (hexOfNat k n) = some n := by
  induction k generalizing n with
  | zero =>
    have hn : n = 0 := by omega
    subst hn
    rfl
  | succ k ih =>
    have hdiv : n / 16 < 16 ^ k := by
      rw [Nat.div_lt_iff_lt_mul (by decide)]
      rwa [Nat.pow_succ] at h
    have ih := ih hdiv
    have hmod := hexVal_hexDigit (Nat.mod_lt n (show 0 < 16 by decide))
    unfold natOfHex at ih ⊢
    rw [hexOfNat, List.foldlM_append, ih]
    simp [hmod, Nat.div_add_mod]

private theorem mem_hexOfNat {k n : Nat} {c : Char} (h : c ∈ hexOfNat k n) : ∃ m < 16, c = hexDigit m := by
  induction k generalizing n with
  | zero => cases h
  | succ k ih =>
    rcases List.mem_append.1 h with h | h
    · exact ih h
    · exact ⟨n % 16, Nat.mod_lt n (by decide), List.mem_singleton.1 h⟩

/-! ### UUIDs -/

/-- The canonical text, in groups of 8, 4, 4, 4 and 12 digits. -/
def uuidText (u : BitVec 128) : String :=
  let ds := hexOfNat 32 u.toNat
  String.ofList (ds.take 8 ++ '-' :: (ds.drop 8).take 4 ++ '-' :: (ds.drop 12).take 4 ++ '-' :: (ds.drop 16).take 4 ++
    '-' :: ds.drop 20)

/-- `text.replace(pat, '')` -/
def eraseAll (pat : List Char) : List Char → List Char
  | [] => []
  | c :: cs =>
    if pat.isPrefixOf (c :: cs) then eraseAll pat ((c :: cs).drop (max 1 pat.length)) else c :: eraseAll pat cs
  termination_by cs => cs.length
  decreasing_by
    all_goals simp only [List.length_drop, List.length_cons]
    all_goals omega

/-- `text.strip('{}')` -/
def stripBraces (cs : List Char) : List Char :=
  let brace : Char → Bool := fun c => c == '{' || c == '}'
  ((cs.dropWhile brace).reverse.dropWhile brace).reverse

/-- `uuid.UUID(text)`: 32 digits; a URN prefix, braces and hyphens are dropped. -/
def parseUuid (text : String) : Option (BitVec 128) :=
  let cs := stripBraces (eraseAll "uuid:".toList (eraseAll "urn:".toList text.toList))
  let ds := cs.filter (· ≠ '-')
  if ds.length = 32 then (natOfHex ds).map (BitVec.ofNat 128) else none

private theorem eraseAll_of_not_mem {pat cs : List Char} (hp : ':' ∈ pat) (hc : ':' ∉ cs) : eraseAll pat cs = cs := by
  induction cs with
  | nil => rw [eraseAll]
  | cons c cs ih =>
    rw [eraseAll, if_neg, ih fun h => hc (List.mem_cons_of_mem c h)]
    intro hpre
    exact hc ((List.isPrefixOf_iff_prefix.1 hpre).subset hp)

private theorem stripBraces_of_not_mem {cs : List Char} (h : ∀ c ∈ cs, c ≠ '{' ∧ c ≠ '}') : stripBraces cs = cs := by
  have hdrop : ∀ l : List Char, (∀ c ∈ l, c ≠ '{' ∧ c ≠ '}') →
      l.dropWhile (fun c => c == '{' || c == '}') = l := by
    intro l hl
    cases l with
    | nil => rfl
    | cons c l =>
      obtain ⟨h₁, h₂⟩ := hl c List.mem_cons_self
      simp [h₁, h₂]
  unfold stripBraces
  simp only
  rw [hdrop cs h, hdrop cs.reverse fun c hc => h c (List.mem_reverse.1 hc), List.reverse_reverse]

/-- The groups put together again. -/
private theorem groups_append {ds : List Char} :
    ds.take 8 ++ ((ds.drop 8).take 4 ++ ((ds.drop 12).take 4 ++ ((ds.drop 16).take 4 ++ ds.drop 20))) = ds := by
  have hsplit : ∀ n, (ds.drop n).take 4 ++ ds.drop (n + 4) = ds.drop n := by
    intro n
    rw [← List.drop_drop, List.take_append_drop]
  rw [hsplit 16, hsplit 12, hsplit 8, List.take_append_drop]

theorem parseUuid_uuidText (u : BitVec 128) : parseUuid (uuidText u) = some u := by
  have hlen : (hexOfNat 32 u.toNat).length = 32 := length_hexOfNat 32 u.toNat
  have hval : natOfHex (hexOfNat 32 u.toNat) = some u.toNat :=
      natOfHex_hexOfNat (Nat.lt_of_lt_of_le u.isLt (by decide))
  have hdigit : ∀ c ∈ hexOfNat 32 u.toNat, c ∉ ['-', ':', '{', '}'] := by
    intro c hc
    obtain ⟨m, hm, rfl⟩ := mem_hexOfNat hc
    exact (hexDigit_ne hm).1
  unfold parseUuid uuidText
  generalize hexOfNat 32 u.toNat = ds at hlen hval hdigit
  -- the text has digits and hyphens only
  have hmem : ∀ c ∈ ds.take 8 ++ '-' :: (ds.drop 8).take 4 ++ '-' :: (ds.drop 12).take 4 ++
      '-' :: (ds.drop 16).take 4 ++ '-' :: ds.drop 20, c = '-' ∨ c ∈ ds := by
    intro c hc
    simp only [List.mem_append, List.mem_cons] at hc
    rcases hc with (((hc | hc | hc) | hc | hc) | hc | hc) | hc | hc
    · exact Or.inr (List.mem_of_mem_take hc)
    · exact Or.inl hc
    · exact Or.inr (List.mem_of_mem_drop (List.mem_of_mem_take hc))
    · exact Or.inl hc
    · exact Or.inr (List.mem_of_mem_drop (List.mem_of_mem_take hc))
    · exact Or.inl hc
    · exact Or.inr (List.mem_of_mem_drop (List.mem_of_mem_take hc))
    · exact Or.inl hc
    · exact Or.inr (List.mem_of_mem_drop hc)
  have hne : ∀ d : Char, d ∈ [':', '{', '}'] → ∀ c ∈ ds.take 8 ++ '-' :: (ds.drop 8).take 4 ++
      '-' :: (ds.drop 12).take 4 ++ '-' :: (ds.drop 16).take 4 ++ '-' :: ds.drop 20, c ≠ d := by
    rintro d hd c hc rfl
    rcases hmem c hc with rfl | hc
    · exact absurd hd (by decide)
    · exact hdigit c hc (List.mem_cons_of_mem _ hd)
  have hkeep : ∀ l : List Char, (∀ c ∈ l, c ∈ ds) → l.filter (fun c => decide (c ≠ '-')) = l := by
    intro l hl
    refine List.filter_eq_self.2 fun c hc => ?_
    have hc := hdigit c (hl c hc)
    simp only [List.mem_cons, not_or] at hc
    exact decide_eq_true hc.1
  simp only [String.toList_ofList]
  rw [eraseAll_of_not_mem (by decide) fun h => hne ':' (by decide) _ h rfl,
    eraseAll_of_not_mem (by decide) fun h => hne ':' (by decide) _ h rfl,
    stripBraces_of_not_mem fun c hc => ⟨hne '{' (by decide) c hc, hne '}' (by decide) c hc⟩]
  simp only [List.filter_append, List.filter_cons, ne_eq, not_true_eq_false, decide_false,
    Bool.false_eq_true, if_false]
  simp only [ne_eq] at hkeep
  rw [hkeep _ fun c hc => List.mem_of_mem_take hc, hkeep _ fun c hc => List.mem_of_mem_drop (List.mem_of_mem_take hc),
    hkeep _ fun c hc => List.mem_of_mem_drop (List.mem_of_mem_take hc),
    hkeep _ fun c hc => List.mem_of_mem_drop (List.mem_of_mem_take hc),
    hkeep _ fun c hc => List.mem_of_mem_drop hc]
  simp only [List.append_assoc]
  rw [groups_append, if_pos hlen, hval]
  simp

/-- A canonical text names one UUID. -/
theorem uuidText_inj {u v : BitVec 128} (h : uuidText u = uuidText v) : u = v := by
  have hu := parseUuid_uuidText u
  rw [h, parseUuid_uuidText v] at hu
  exact (Option.some.inj hu).symm

end CleanBackend
