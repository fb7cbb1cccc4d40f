import Mathlib.Data.List.Basic

/-!
# Base64

`base64.urlsafe_b64encode` and `base64.urlsafe_b64decode`.  The decoder is that of `binascii.a2b_base64`: it skips
what is no character of the alphabet, stops at a padding that completes a group, and accepts both alphabets.  What is
encoded reads back (`Base64.decode_encode`), and an encoding has no other characters than those of the URL-safe
alphabet and `=` (`Base64.encode_alphabet`).
-/

namespace CleanBackend

namespace Base64

/-- `=` -/
def pad : UInt8 := 61

/-- The character of six bits. -/
def charOf (v : Nat) : UInt8 :=
  if v < 26 then .ofNat (65 + v)
  else if v < 52 then .ofNat (71 + v)
  else if v < 62 then .ofNat (v - 4)
  else if v = 62 then 43
  else 47

/-- The six bits of a character. -/
def valueOf (b : UInt8) : Option Nat :=
  if 65 ≤ b.toNat ∧ b.toNat ≤ 90 then some (b.toNat - 65)
  else if 97 ≤ b.toNat ∧ b.toNat ≤ 122 then some (b.toNat - 71)
  else if 48 ≤ b.toNat ∧ b.toNat ≤ 57 then some (b.toNat + 4)
  else if b = 43 then some 62
  else if b = 47 then some 63
  else none

/-- `binascii.b2a_base64` -/
def b2a : List UInt8 → List UInt8
  | [] => []
  | [a] => [charOf (a.toNat / 4), charOf (a.toNat % 4 * 16), pad, pad]
  | [a, b] => [charOf (a.toNat / 4), charOf (a.toNat % 4 * 16 + b.toNat / 16), charOf (b.toNat % 16 * 4), pad]
  | a :: b :: c :: rest =>
    charOf (a.toNat / 4) :: charOf (a.toNat % 4 * 16 + b.toNat / 16) :: charOf (b.toNat % 16 * 4 + c.toNat / 64) ::
      charOf (c.toNat % 64) :: b2a rest

/-- The reader inside a group of four characters. -/
structure Reader where
  /-- the characters of the group so far -/
  quad : Fin 4
  /-- the bits that are not written yet -/
  left : Nat
  pads : Nat
  data : List UInt8

def Reader.start : Reader := ⟨0, 0, 0, []⟩

/-- A character of the alphabet. -/
def Reader.take (r : Reader) (v : Nat) : Reader :=
  match r.quad with
  | 0 => ⟨1, v, 0, r.data⟩
  | 1 => ⟨2, v % 16, 0, r.data ++ [.ofNat (r.left * 4 + v / 16)]⟩
  | 2 => ⟨3, v % 4, 0, r.data ++ [.ofNat (r.left * 16 + v / 4)]⟩
  | 3 => ⟨0, 0, 0, r.data ++ [.ofNat (r.left * 64 + v)]⟩

/-- `binascii.a2b_base64`, with `none` for a `binascii.Error` -/
def a2b (r : Reader) : List UInt8 → Option (List UInt8)
  | [] => if r.quad = 0 then some r.data else none
  | b :: rest =>
    if b = pad then
      if 2 ≤ r.quad.val then
        if 4 ≤ r.quad.val + (r.pads + 1) then some r.data else a2b { r with pads := r.pads + 1 } rest
      else a2b r rest
    else
      match valueOf b with
      | none => a2b r rest
      | some v => a2b (r.take v) rest

def toUrlsafe (b : UInt8) : UInt8 := if b = 43 then 45 else if b = 47 then 95 else b

def ofUrlsafe (b : UInt8) : UInt8 := if b = 45 then 43 else if b = 95 then 47 else b

/-- `base64.urlsafe_b64encode` -/
def encode (data : List UInt8) : List UInt8 := (b2a data).map toUrlsafe

/-- `base64.urlsafe_b64decode`, with `none` for a `binascii.Error` -/
def decode (text : List UInt8) : Option (List UInt8) := a2b .start (text.map ofUrlsafe)

/-- A letter, a digit, `-` or `_`. -/
def isUrlsafe (b : UInt8) : Bool :=
  (65 ≤ b.toNat && b.toNat ≤ 90) || (97 ≤ b.toNat && b.toNat ≤ 122) || (48 ≤ b.toNat && b.toNat ≤ 57) ||
    b = 45 || b = 95

/-! ### The alphabet -/

private theorem toUrlsafe_charOf {v : Nat} (h : v < 64) :
    isUrlsafe (toUrlsafe (charOf v)) = true ∧ ofUrlsafe (toUrlsafe (charOf v)) = charOf v ∧ charOf v ≠ pad ∧
      valueOf (charOf v) = some v := by
  have hall : ∀ v < 64, isUrlsafe (toUrlsafe (charOf v)) = true ∧ ofUrlsafe (toUrlsafe (charOf v)) = charOf v ∧
      charOf v ≠ pad ∧ valueOf (charOf v) = some v := by decide
  exact hall v h

theorem encode_alphabet (data : List UInt8) : ∀ b ∈ encode data, isUrlsafe b = true ∨ b = pad := by
  have hchar : ∀ v < 64, isUrlsafe (toUrlsafe (charOf v)) = true ∨ toUrlsafe (charOf v) = pad :=
    fun v hv => Or.inl (toUrlsafe_charOf hv).1
  have hpad : isUrlsafe (toUrlsafe pad) = true ∨ toUrlsafe pad = pad := Or.inr rfl
  unfold encode
  fun_induction b2a data with
  | case1 => simp
  | case2 a =>
    have ha := a.toNat_lt
    simp only [List.map_cons, List.map_nil, List.forall_mem_cons]
    exact ⟨hchar _ (by omega), hchar _ (by omega), hpad, hpad, by simp⟩
  | case3 a b =>
    have ha := a.toNat_lt
    have hb := b.toNat_lt
    simp only [List.map_cons, List.map_nil, List.forall_mem_cons]
    exact ⟨hchar _ (by omega), hchar _ (by omega), hchar _ (by omega), hpad, by simp⟩
  | case4 a b c rest ih =>
    have ha := a.toNat_lt
    have hb := b.toNat_lt
    have hc := c.toNat_lt
    simp only [List.map_cons, List.forall_mem_cons]
    exact ⟨hchar _ (by omega), hchar _ (by omega), hchar _ (by omega), hchar _ (by omega), ih⟩

/-! ### The round trip -/

/-- A character of the alphabet, encoded for URLs, is taken. -/
private theorem a2b_charOf (r : Reader) {v : Nat} (h : v < 64) (rest : List UInt8) :
    a2b r (ofUrlsafe (toUrlsafe (charOf v)) :: rest) = a2b (r.take v) rest := by
  obtain ⟨-, hback, hpad, hvalue⟩ := toUrlsafe_charOf h
  rw [hback, a2b, if_neg hpad, hvalue]

@[simp] theorem take_zero (l p v : Nat) (out : List UInt8) : Reader.take ⟨0, l, p, out⟩ v = ⟨1, v, 0, out⟩ := rfl

@[simp] theorem take_one (l p v : Nat) (out : List UInt8) :
    Reader.take ⟨1, l, p, out⟩ v = ⟨2, v % 16, 0, out ++ [UInt8.ofNat (l * 4 + v / 16)]⟩ := rfl

@[simp] theorem take_two (l p v : Nat) (out : List UInt8) :
    Reader.take ⟨2, l, p, out⟩ v = ⟨3, v % 4, 0, out ++ [UInt8.ofNat (l * 16 + v / 4)]⟩ := rfl

@[simp] theorem take_three (l p v : Nat) (out : List UInt8) :
    Reader.take ⟨3, l, p, out⟩ v = ⟨0, 0, 0, out ++ [UInt8.ofNat (l * 64 + v)]⟩ := rfl

/-- Two characters of padding end a group of two. -/
private theorem a2b_pad_two (l : Nat) (out : List UInt8) : a2b ⟨2, l, 0, out⟩ [pad, pad] = some out := rfl

/-- One character of padding ends a group of three. -/
private theorem a2b_pad_one (l : Nat) (out : List UInt8) : a2b ⟨3, l, 0, out⟩ [pad] = some out := rfl

private theorem a2b_b2a (data : List UInt8) (l p : Nat) (out : List UInt8) :
    a2b ⟨0, l, p, out⟩ (((b2a data).map toUrlsafe).map ofUrlsafe) = some (out ++ data) := by
  have hbyte : ∀ (n : Nat) (b : UInt8), n = b.toNat → UInt8.ofNat n = b := by
    rintro n b rfl
    exact UInt8.ofNat_toNat
  have hpad : ofUrlsafe (toUrlsafe pad) = pad := rfl
  fun_induction b2a data generalizing l p out with
  | case1 => simp [a2b]
  | case2 a =>
    have ha := a.toNat_lt
    simp only [List.map_cons, List.map_nil, hpad]
    rw [a2b_charOf _ (by omega), a2b_charOf _ (by omega), take_zero, take_one, a2b_pad_two, hbyte _ a (by omega)]
  | case3 a b =>
    have ha := a.toNat_lt
    have hb := b.toNat_lt
    simp only [List.map_cons, List.map_nil, hpad]
    rw [a2b_charOf _ (by omega), a2b_charOf _ (by omega), a2b_charOf _ (by omega), take_zero, take_one, take_two,
      a2b_pad_one, hbyte _ a (by omega), hbyte _ b (by omega), List.append_assoc]
    rfl
  | case4 a b c rest ih =>
    have ha := a.toNat_lt
    have hb := b.toNat_lt
    have hc := c.toNat_lt
    simp only [List.map_cons]
    rw [a2b_charOf _ (by omega), a2b_charOf _ (by omega), a2b_charOf _ (by omega), a2b_charOf _ (by omega), take_zero,
      take_one, take_two, take_three, ih, hbyte _ a (by omega), hbyte _ b (by omega), hbyte _ c (by omega)]
    simp

theorem decode_encode (data : List UInt8) : decode (encode data) = some data := a2b_b2a data 0 0 []

end Base64

end CleanBackend
