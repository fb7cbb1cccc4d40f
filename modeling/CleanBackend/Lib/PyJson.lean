import CleanBackend.Lib.Encoding
import CleanBackend.Lib.PyDict
import CleanBackend.Lib.PyText

/-!
# `json.loads` and `json.dumps`

The decoder reads a text one code point at a time, on a stack of the containers that are open (`JsonReader.step`).  It
accepts what Python's does: `NaN` and `Infinity`, single surrogates in escapes, and of two entries with one key the
later.  Where the containers nest deeper than the interpreter's stack allows it raises a `RecursionError`; everything
else that it does not accept is a `ValueError` (`loads_of_fits`, `loads_of_not_fits`).  A dumped text is ASCII and its
strings read back.
-/

namespace CleanBackend

inductive PyJson where
  | null
  | bool (b : Bool)
  /-- an `int` or a `float`, by its literal -/
  | number (literal : PyText)
  | str (text : PyText)
  | list (items : List PyJson)
  | dict (entries : List (PyText × PyJson))

namespace CodePoint

/-- The code point is this character. -/
def is (c : CodePoint) (d : Char) : Bool := c.val == d.toNat

def isDigit (c : CodePoint) : Bool := 48 ≤ c.val && c.val ≤ 57

/-- `[ \t\n\r]` -/
def isJsonSpace (c : CodePoint) : Bool := c.is ' ' || c.is '\t' || c.is '\n' || c.is '\r'

private theorem eq_of_is {c : CodePoint} {d : Char} (h : c.is d = true) : c = ofChar d := by
  refine Fin.ext ?_
  rw [val_ofChar]
  exact beq_iff_eq.1 h

/-- The value of a hexadecimal digit, in either case. -/
def hexValue (c : CodePoint) : Option Nat :=
  if 48 ≤ c.val ∧ c.val ≤ 57 then some (c.val - 48)
  else if 97 ≤ c.val ∧ c.val ≤ 102 then some (c.val - 87)
  else if 65 ≤ c.val ∧ c.val ≤ 70 then some (c.val - 55)
  else none

end CodePoint

/-! ### Strings -/

/-- Where the reader stands in an escape. -/
inductive Escape where
  | plain
  | backslash
  /-- the hexadecimal digits to come, and the value of those read -/
  | unicode (left : Nat) (value : Nat)
  deriving DecidableEq

/-- The reader inside a string. -/
structure StringReader where
  text : PyText
  /-- the escape before was a high surrogate, which may be half of a pair -/
  high : Option CodePoint
  escape : Escape

namespace StringReader

def start : StringReader := ⟨[], none, .plain⟩

/-- The text so far. -/
def flush (s : StringReader) : PyText := s.text ++ s.high.toList

def push (s : StringReader) (c : CodePoint) : StringReader := ⟨s.flush ++ [c], none, .plain⟩

/-- A `\u` escape. -/
def pushUnicode (s : StringReader) (c : CodePoint) : StringReader :=
  match s.high with
  | some high =>
    if c.isLow then ⟨s.text ++ [.join high c], none, .plain⟩
    else if c.isHigh then ⟨s.flush, some c, .plain⟩
    else s.push c
  | none => if c.isHigh then ⟨s.text, some c, .plain⟩ else s.push c

/-- The character that a backslash before `c` makes of it. -/
def escaped (c : CodePoint) : Option CodePoint :=
  if c.is '"' || c.is '\\' || c.is '/' then some c
  else if c.is 'b' then some 8
  else if c.is 'f' then some 12
  else if c.is 'n' then some 10
  else if c.is 'r' then some 13
  else if c.is 't' then some 9
  else none

/-- The quotation mark that ends the string. -/
def closes (s : StringReader) (c : CodePoint) : Bool := s.escape = .plain && c.is '"'

/-- A code point of the string before its end. -/
def step (s : StringReader) (c : CodePoint) : Option StringReader :=
  match s.escape with
  | .plain =>
    if c.is '\\' then some { s with escape := .backslash }
    else if c.is '"' || c.val < 0x20 then none
    else some (s.push c)
  | .backslash => if c.is 'u' then some { s with escape := .unicode 4 0 } else (escaped c).map s.push
  | .unicode left value =>
    match c.hexValue with
    | none => none
    | some d =>
      if left = 1 then some (s.pushUnicode (.ofNat (value * 16 + d)))
      else some { s with escape := .unicode (left - 1) (value * 16 + d) }

end StringReader

/-! ### Numbers -/

/-- What of a number literal is read: `-?(0|[1-9]\d*)(\.\d+)?([eE][-+]?\d+)?`. -/
inductive NumberPhase where
  | minus
  | zero
  | integer
  | point
  | fraction
  | exponent
  | exponentSign
  | exponentDigits

namespace NumberPhase

def next : NumberPhase → CodePoint → Option NumberPhase
  | minus, c => if c.is '0' then some zero else if c.isDigit then some integer else none
  | zero, c => if c.is '.' then some point else if c.is 'e' || c.is 'E' then some exponent else none
  | integer, c =>
    if c.isDigit then some integer
    else if c.is '.' then some point
    else if c.is 'e' || c.is 'E' then some exponent
    else none
  | point, c => if c.isDigit then some fraction else none
  | fraction, c =>
    if c.isDigit then some fraction else if c.is 'e' || c.is 'E' then some exponent else none
  | exponent, c =>
    if c.is '-' || c.is '+' then some exponentSign else if c.isDigit then some exponentDigits else none
  | exponentSign, c | exponentDigits, c => if c.isDigit then some exponentDigits else none

/-- The literal is complete; an `int` has at most 4300 digits. -/
def ends : NumberPhase → PyText → Bool
  | zero, literal | integer, literal => (literal.filter CodePoint.isDigit).length ≤ 4300
  | fraction, _ | exponentDigits, _ => true
  | minus, _ | point, _ | exponent, _ | exponentSign, _ => false

end NumberPhase

/-! ### Documents -/

/-- A container that is open. -/
inductive JsonFrame where
  | list (items : List PyJson)
  /-- a key is to come -/
  | dict (entries : PyDict PyText PyJson)
  /-- the value of this key is to come -/
  | entry (entries : PyDict PyText PyJson) (key : PyText)

/-- What the reader expects. -/
inductive JsonMode where
  | value
  /-- a value, or the end of the list -/
  | firstItem
  /-- a key, or the end of the dictionary -/
  | firstKey
  | key
  | colon
  | string (isKey : Bool) (reader : StringReader)
  /-- the rest of a constant -/
  | word (rest : PyText) (value : PyJson)
  | number (phase : NumberPhase) (literal : PyText)
  /-- a delimiter after this value -/
  | done (value : PyJson)

structure JsonReader where
  stack : List JsonFrame
  mode : JsonMode

namespace JsonReader

def start : JsonReader := ⟨[], .value⟩

/-- The first code point of a value. -/
def beginValue (stack : List JsonFrame) (c : CodePoint) : Option JsonReader :=
  if c.is '"' then some ⟨stack, .string false .start⟩
  else if c.is '{' then some ⟨.dict [] :: stack, .firstKey⟩
  else if c.is '[' then some ⟨.list [] :: stack, .firstItem⟩
  else if c.is 'n' then some ⟨stack, .word (.ofString "ull") .null⟩
  else if c.is 't' then some ⟨stack, .word (.ofString "rue") (.bool true)⟩
  else if c.is 'f' then some ⟨stack, .word (.ofString "alse") (.bool false)⟩
  else if c.is 'N' then some ⟨stack, .word (.ofString "aN") (.number (.ofString "NaN"))⟩
  else if c.is 'I' then some ⟨stack, .word (.ofString "nfinity") (.number (.ofString "Infinity"))⟩
  else if c.is '-' then some ⟨stack, .number .minus [c]⟩
  else if c.is '0' then some ⟨stack, .number .zero [c]⟩
  else if c.isDigit then some ⟨stack, .number .integer [c]⟩
  else none

/-- The code point after a value. -/
def endValue (stack : List JsonFrame) (value : PyJson) (c : CodePoint) : Option JsonReader :=
  if c.isJsonSpace then some ⟨stack, .done value⟩
  else
    match stack with
    | .list items :: stack =>
      if c.is ',' then some ⟨.list (items ++ [value]) :: stack, .value⟩
      else if c.is ']' then some ⟨stack, .done (.list (items ++ [value]))⟩
      else none
    | .entry entries key :: stack =>
      if c.is ',' then some ⟨.dict (PyDict.set entries key value) :: stack, .key⟩
      else if c.is '}' then some ⟨stack, .done (.dict (PyDict.set entries key value))⟩
      else none
    | .dict _ :: _ | [] => none

/-- The end of a string. -/
def endString (stack : List JsonFrame) (isKey : Bool) (text : PyText) : Option JsonReader :=
  match isKey, stack with
  | false, stack => some ⟨stack, .done (.str text)⟩
  | true, .dict entries :: stack => some ⟨.entry entries text :: stack, .colon⟩
  | true, _ => none

/-- The code point after a part of a number. -/
def stepNumber (stack : List JsonFrame) (phase : NumberPhase) (literal : PyText) (c : CodePoint) :
    Option JsonReader :=
  match phase, phase.next c with
  | _, some phase => some ⟨stack, .number phase (literal ++ [c])⟩
  | .minus, none =>
    if c.is 'I' then some ⟨stack, .word (.ofString "nfinity") (.number (.ofString "-Infinity"))⟩ else none
  | phase, none => if phase.ends literal then endValue stack (.number literal) c else none

/-- One code point, with `none` for a `JSONDecodeError`. -/
def step (r : JsonReader) (c : CodePoint) : Option JsonReader :=
  match r.mode with
  | .value => if c.isJsonSpace then some r else beginValue r.stack c
  | .firstItem =>
    if c.isJsonSpace then some r
    else if c.is ']' then
      match r.stack with
      | .list items :: stack => some ⟨stack, .done (.list items)⟩
      | _ => none
    else beginValue r.stack c
  | .firstKey =>
    if c.isJsonSpace then some r
    else if c.is '}' then
      match r.stack with
      | .dict entries :: stack => some ⟨stack, .done (.dict entries)⟩
      | _ => none
    else if c.is '"' then some ⟨r.stack, .string true .start⟩
    else none
  | .key =>
    if c.isJsonSpace then some r else if c.is '"' then some ⟨r.stack, .string true .start⟩ else none
  | .colon => if c.isJsonSpace then some r else if c.is ':' then some ⟨r.stack, .value⟩ else none
  | .string isKey reader =>
    if reader.closes c then endString r.stack isKey reader.flush
    else (reader.step c).map fun reader => ⟨r.stack, .string isKey reader⟩
  | .word [] _ => none
  | .word (d :: rest) value =>
    if c ≠ d then none
    else if rest = [] then some ⟨r.stack, .done value⟩
    else some ⟨r.stack, .word rest value⟩
  | .number phase literal => stepNumber r.stack phase literal c
  | .done value => endValue r.stack value c

/-- The end of the text. -/
def finish (r : JsonReader) : Option PyJson :=
  match r.stack, r.mode with
  | [], .done value => some value
  | [], .number phase literal => if phase.ends literal then some (.number literal) else none
  | _, _ => none

end JsonReader

/-! ### `json.loads` -/

inductive LoadsError where
  /-- a `ValueError`: `JSONDecodeError`, `UnicodeDecodeError` -/
  | valueError
  | recursionError
  deriving DecidableEq

namespace JsonReader

/-- A text, as far as it can be read. -/
def read (r : JsonReader) (t : PyText) : Option JsonReader := t.foldlM step r

/-- One code point, where `room` containers may be open around one. -/
def stepWithin (room : Nat) (r : JsonReader) (c : CodePoint) : Except LoadsError JsonReader :=
  match r.step c with
  | none => .error .valueError
  | some r' => if r'.stack.length ≤ room + 1 then .ok r' else .error .recursionError

def readWithin (room : Nat) (r : JsonReader) (t : PyText) : Except LoadsError JsonReader :=
  t.foldlM (stepWithin room) r

/-- As far as the text can be read, no container is inside more than `room` others. -/
def Fits (room : Nat) (r : JsonReader) (t : PyText) : Prop :=
  ∀ u r', u <+: t → r.read u = some r' → r'.stack.length ≤ room + 1

end JsonReader

/-- The value of a document, if the text is one. -/
def parseJson (t : PyText) : Option PyJson := (JsonReader.start.read t).bind JsonReader.finish

/-- `json.loads(text)` -/
def loadsText (room : Nat) (t : PyText) : Except LoadsError PyJson :=
  (JsonReader.start.readWithin room t).bind fun r => (r.finish.elim (.error .valueError) .ok)

def startsWith (data mark : List UInt8) : Bool := mark.isPrefixOf data

/-- `data.decode(json.detect_encoding(data), "surrogatepass")` -/
def decodeDocument (data : List UInt8) : Option PyText :=
  if startsWith data [0x00, 0x00, 0xFE, 0xFF] then PyText.ofUtf32 true (data.drop 4)
  else if startsWith data [0xFF, 0xFE, 0x00, 0x00] then PyText.ofUtf32 false (data.drop 4)
  else if startsWith data [0xFE, 0xFF] then PyText.ofUtf16 true (data.drop 2)
  else if startsWith data [0xFF, 0xFE] then PyText.ofUtf16 false (data.drop 2)
  else if startsWith data [0xEF, 0xBB, 0xBF] then PyText.ofUtf8 (data.drop 3)
  else
    match data with
    | a :: b :: c :: d :: _ =>
      if a = 0 then if b = 0 then PyText.ofUtf32 true data else PyText.ofUtf16 true data
      else if b = 0 then if c = 0 ∧ d = 0 then PyText.ofUtf32 false data else PyText.ofUtf16 false data
      else PyText.ofUtf8 data
    | [a, b] =>
      if a = 0 then PyText.ofUtf16 true data
      else if b = 0 then PyText.ofUtf16 false data
      else PyText.ofUtf8 data
    | _ => PyText.ofUtf8 data

/-- `json.loads(data)` -/
def loads (room : Nat) (data : List UInt8) : Except LoadsError PyJson :=
  (decodeDocument data).elim (.error .valueError) (loadsText room)

namespace JsonReader

variable {room : Nat} {r r' : JsonReader}

private theorem read_cons (r : JsonReader) (c : CodePoint) (t : PyText) :
    r.read (c :: t) = (r.step c).bind fun r' => r'.read t :=
  rfl

private theorem readWithin_cons (room : Nat) (r : JsonReader) (c : CodePoint) (t : PyText) :
    r.readWithin room (c :: t) = (r.stepWithin room c).bind fun r' => r'.readWithin room t := rfl

private theorem stepWithin_of_step {c : CodePoint} (h : r.step c = some r') (hle : r'.stack.length ≤ room + 1) :
    r.stepWithin room c = .ok r' := by
  unfold stepWithin
  rw [h]
  exact if_pos hle

theorem fits_nil (hr : r.stack.length ≤ room + 1) : r.Fits room [] := by
  intro u r' hu hread
  rw [List.prefix_nil.1 hu] at hread
  cases hread
  exact hr

theorem Fits.cons {c : CodePoint} {t : PyText} (h : r.Fits room (c :: t)) (hstep : r.step c = some r') :
    r'.Fits room t := by
  intro u q hu hq
  refine h (c :: u) q (List.cons_prefix_cons.2 ⟨rfl, hu⟩) ?_
  rw [read_cons, hstep]
  exact hq

private theorem fits_of_cons {c : CodePoint} {t : PyText} (hr : r.stack.length ≤ room + 1)
    (h : ∀ r', r.step c = some r' → r'.Fits room t) : r.Fits room (c :: t) := by
  intro u q hu hq
  cases u with
  | nil =>
    cases hq
    exact hr
  | cons d u =>
    obtain ⟨rfl, hprefix⟩ := List.cons_prefix_cons.1 hu
    rw [read_cons] at hq
    obtain ⟨r', hstep, hread⟩ := Option.bind_eq_some_iff.1 hq
    exact h r' hstep u q hprefix hread

private theorem readWithin_of_fits {t : PyText} (h : r.Fits room t) :
    r.readWithin room t = (r.read t).elim (.error .valueError) .ok := by
  induction t generalizing r with
  | nil => rfl
  | cons c t ih =>
    rw [readWithin_cons, read_cons]
    cases hstep : r.step c with
    | none =>
      unfold stepWithin
      rw [hstep]
      rfl
    | some r' =>
      have hfits := h.cons hstep
      rw [stepWithin_of_step hstep (hfits [] r' List.nil_prefix rfl)]
      exact ih hfits

private theorem readWithin_of_not_fits {t : PyText} (hr : r.stack.length ≤ room + 1) (h : ¬ r.Fits room t) :
    r.readWithin room t = .error .recursionError := by
  induction t generalizing r with
  | nil => exact absurd (fits_nil hr) h
  | cons c t ih =>
    rw [readWithin_cons]
    cases hstep : r.step c with
    | none => exact absurd (fits_of_cons hr fun r' h' => by cases hstep.symm.trans h') h
    | some r' =>
      by_cases hle : r'.stack.length ≤ room + 1
      · rw [stepWithin_of_step hstep hle]
        refine ih hle fun hfits => h (fits_of_cons hr fun q hq => ?_)
        cases hstep.symm.trans hq
        exact hfits
      · unfold stepWithin
        rw [hstep]
        dsimp only
        rw [if_neg hle]
        rfl

end JsonReader

/-- Where the containers fit, `json.loads` has the value of the document or raises a `ValueError`. -/
theorem loadsText_of_fits {room : Nat} {t : PyText} (h : JsonReader.start.Fits room t) :
    loadsText room t = (parseJson t).elim (.error .valueError) .ok := by
  unfold loadsText parseJson
  rw [JsonReader.readWithin_of_fits h]
  cases JsonReader.start.read t with
  | none => rfl
  | some r => rfl

theorem loadsText_of_not_fits {room : Nat} {t : PyText} (h : ¬ JsonReader.start.Fits room t) :
    loadsText room t = .error .recursionError := by
  unfold loadsText
  rw [JsonReader.readWithin_of_not_fits (Nat.zero_le _) h]
  rfl

/-! ### `json.dumps` -/

def hexCode (n : Nat) : CodePoint := .ofChar (hexDigit n)

def unicodeEscape (n : Nat) : PyText :=
  [.ofChar '\\', .ofChar 'u', hexCode (n / 0x1000), hexCode (n / 0x100 % 0x10), hexCode (n / 0x10 % 0x10),
    hexCode (n % 0x10)]

/-- A character of a string that is dumped, with `ensure_ascii`. -/
def escapeChar (c : CodePoint) : PyText :=
  if c.is '"' || c.is '\\' then [.ofChar '\\', c]
  else if 0x20 ≤ c.val ∧ c.val ≤ 0x7E then [c]
  else if c.val = 8 then .ofString "\\b"
  else if c.val = 12 then .ofString "\\f"
  else if c.val = 10 then .ofString "\\n"
  else if c.val = 13 then .ofString "\\r"
  else if c.val = 9 then .ofString "\\t"
  else if c.val < 0x10000 then unicodeEscape c.val
  else unicodeEscape (0xD800 + (c.val - 0x10000) / 0x400) ++ unicodeEscape (0xDC00 + (c.val - 0x10000) % 0x400)

def dumpsString (t : PyText) : PyText := .ofChar '"' :: t.flatMap escapeChar ++ [.ofChar '"']

def dumpsEntry (e : PyText × PyText) : PyText := dumpsString e.1 ++ PyText.ofString ": " ++ dumpsString e.2

/-- `json.dumps` of a dictionary of strings -/
def dumps : List (PyText × PyText) → PyText
  | [] => .ofString "{}"
  | e :: es =>
    .ofChar '{' :: dumpsEntry e ++ es.flatMap (fun e => .ofString ", " ++ dumpsEntry e) ++ [.ofChar '}']

private theorem hexValue_hexCode {n : Nat} (h : n < 16) : (hexCode n).hexValue = some n := by
  have hall : ∀ n < 16, (hexCode n).hexValue = some n := by decide
  exact hall n h

namespace StringReader

/-- The code points of a string, short of its end. -/
def feed (s : StringReader) (t : PyText) : Option StringReader := t.foldlM step s

private theorem feed_cons (s : StringReader) (c : CodePoint) (t : PyText) :
    s.feed (c :: t) = (s.step c).bind fun s' => s'.feed t :=
  rfl

private theorem feed_append {s s' : StringReader} {t u : PyText} (h : s.feed t = some s') :
    s.feed (t ++ u) = s'.feed u := by
  unfold feed at h ⊢
  rw [List.foldlM_append, h]
  rfl

private theorem step_hex (s : StringReader) {left d : Nat} (value : Nat) (hleft : left ≠ 1) (hd : d < 16) :
    step { s with escape := .unicode left value } (hexCode d) =
      some { s with escape := .unicode (left - 1) (value * 16 + d) } := by
  unfold step
  dsimp only
  rw [hexValue_hexCode hd]
  dsimp only
  rw [if_neg hleft]

private theorem step_hex_last (s : StringReader) {d : Nat} (value : Nat) (hd : d < 16) :
    step { s with escape := .unicode 1 value } (hexCode d) = some (s.pushUnicode (.ofNat (value * 16 + d))) := by
  unfold step
  dsimp only
  rw [hexValue_hexCode hd]
  rfl

private theorem feed_unicodeEscape {s : StringReader} (hs : s.escape = .plain) {n : Nat} (h : n < 0x10000) :
    s.feed (unicodeEscape n) = some (s.pushUnicode (.ofNat n)) := by
  have hbackslash : s.step (.ofChar '\\') = some { s with escape := .backslash } := by
    unfold step
    rw [hs]
    rfl
  have hu : step { s with escape := .backslash } (.ofChar 'u') = some { s with escape := .unicode 4 0 } := rfl
  have hvalue : (((0 * 16 + n / 0x1000) * 16 + n / 0x100 % 0x10) * 16 + n / 0x10 % 0x10) * 16 +
      n % 0x10 = n := by omega
  unfold unicodeEscape
  rw [feed_cons, hbackslash, Option.bind_some, feed_cons, hu, Option.bind_some, feed_cons,
    step_hex s 0 (by decide) (by omega), Option.bind_some, feed_cons, step_hex s _ (by decide) (by omega),
    Option.bind_some, feed_cons, step_hex s _ (by decide) (by omega), Option.bind_some, feed_cons,
    step_hex_last s _ (by omega), Option.bind_some, hvalue]
  rfl

/-- A character that is escaped by a letter. -/
private theorem feed_letter (t : PyText) {c d : CodePoint} (hd : d.is 'u' = false) (h : escaped d = some c) :
    feed ⟨t, none, .plain⟩ [.ofChar '\\', d] = some ⟨t ++ [c], none, .plain⟩ := by
  have hstep : step ⟨t, none, .backslash⟩ d = some ⟨t ++ [c], none, .plain⟩ := by
    unfold step
    dsimp only
    rw [hd, h, if_neg (by decide), Option.map_some]
    simp [push, flush]
  show (step ⟨t, none, .backslash⟩ d).bind _ = _
  rw [hstep]
  rfl

/-- A character that stands for itself. -/
private theorem feed_plain (t : PyText) {c : CodePoint} (hq : c.is '"' = false) (hb : c.is '\\' = false)
    (h : 0x20 ≤ c.val) :
    feed ⟨t, none, .plain⟩ [c] = some ⟨t ++ [c], none, .plain⟩ := by
  have hstep : step ⟨t, none, .plain⟩ c = some ⟨t ++ [c], none, .plain⟩ := by
    unfold step
    dsimp only
    rw [hq, hb, Bool.false_or, if_neg (by decide), if_neg (by rw [decide_eq_true_iff]; omega)]
    simp [push, flush]
  show (step ⟨t, none, .plain⟩ c).bind _ = _
  rw [hstep]
  rfl

private theorem pushUnicode_of_not_surrogate (t : PyText) {c : CodePoint} (h : c.isSurrogate = false) :
    pushUnicode ⟨t, none, .plain⟩ c = ⟨t ++ [c], none, .plain⟩ := by
  have hhigh : c.isHigh = false := by
    unfold CodePoint.isSurrogate at h
    unfold CodePoint.isHigh
    simp only [Bool.and_eq_false_iff, decide_eq_false_iff_not] at h ⊢
    omega
  unfold pushUnicode
  dsimp only
  rw [hhigh, if_neg (by decide)]
  simp [push, flush]

/-- A surrogate pair is joined. -/
private theorem feed_pair (t : PyText) {c : CodePoint} (h : 0x10000 ≤ c.val) :
    feed ⟨t, none, .plain⟩
        (unicodeEscape (0xD800 + (c.val - 0x10000) / 0x400) ++ unicodeEscape (0xDC00 + (c.val - 0x10000) % 0x400)) =
      some ⟨t ++ [c], none, .plain⟩ := by
  have hlt := c.isLt
  generalize hn : 0xD800 + (c.val - 0x10000) / 0x400 = high
  generalize hm : 0xDC00 + (c.val - 0x10000) % 0x400 = low
  have hhigh : (CodePoint.ofNat high).val = high := CodePoint.val_ofNat (by omega)
  have hlow : (CodePoint.ofNat low).val = low := CodePoint.val_ofNat (by omega)
  have hisHigh : (CodePoint.ofNat high).isHigh = true := by
    unfold CodePoint.isHigh
    rw [hhigh]
    simp only [Bool.and_eq_true, decide_eq_true_eq]
    omega
  have hisLow : (CodePoint.ofNat low).isLow = true := by
    unfold CodePoint.isLow
    rw [hlow]
    simp only [Bool.and_eq_true, decide_eq_true_eq]
    omega
  have hjoin : CodePoint.join (.ofNat high) (.ofNat low) = c := by
    unfold CodePoint.join
    rw [hhigh, hlow, show 0x10000 + (high - 0xD800) * 0x400 + (low - 0xDC00) = c.val by omega, CodePoint.ofNat_val]
  have hfirst : pushUnicode ⟨t, none, .plain⟩ (.ofNat high) = ⟨t, some (.ofNat high), .plain⟩ := by
    unfold pushUnicode
    dsimp only
    rw [hisHigh, if_pos rfl]
  rw [feed_append ((feed_unicodeEscape rfl (by omega)).trans (congrArg some hfirst)),
    feed_unicodeEscape rfl (by omega)]
  unfold pushUnicode
  dsimp only
  rw [hisLow, if_pos rfl, hjoin]

private theorem feed_escapeChar (t : PyText) {c : CodePoint} (h : c.isSurrogate = false) :
    feed ⟨t, none, .plain⟩ (escapeChar c) = some ⟨t ++ [c], none, .plain⟩ := by
  have hletter : ∀ {n : Nat} {d : CodePoint} (hn : n < 0x110000), c.val = n → d.is 'u' = false →
      escaped d = some ⟨n, hn⟩ → feed ⟨t, none, .plain⟩ [.ofChar '\\', d] = some ⟨t ++ [c], none, .plain⟩ := by
    rintro n d hn rfl hu hd
    exact feed_letter t hu hd
  unfold escapeChar
  split
  · rename_i hc
    rcases Bool.or_eq_true_iff.1 hc with hc | hc
    · rw [CodePoint.eq_of_is hc]
      exact feed_letter t rfl rfl
    · rw [CodePoint.eq_of_is hc]
      exact feed_letter t rfl rfl
  rename_i hc
  split
  · rename_i hrange
    obtain ⟨hq, hb⟩ := Bool.or_eq_false_iff.1 (Bool.eq_false_iff.2 hc)
    exact feed_plain t hq hb hrange.1
  split
  · exact hletter (by decide) ‹_› rfl rfl
  split
  · exact hletter (by decide) ‹_› rfl rfl
  split
  · exact hletter (by decide) ‹_› rfl rfl
  split
  · exact hletter (by decide) ‹_› rfl rfl
  split
  · exact hletter (by decide) ‹_› rfl rfl
  split
  · rename_i hlt
    rw [feed_unicodeEscape rfl hlt, CodePoint.ofNat_val, pushUnicode_of_not_surrogate t h]
  · rename_i hge
    exact feed_pair t (by omega)

/-- The characters of a text without surrogates read back. -/
private theorem feed_flatMap (t u : PyText) (hu : ∀ c ∈ u, c.isSurrogate = false) :
    feed ⟨t, none, .plain⟩ (u.flatMap escapeChar) = some ⟨t ++ u, none, .plain⟩ := by
  induction u generalizing t with
  | nil =>
    rw [List.append_nil]
    rfl
  | cons c u ih =>
    rw [List.flatMap_cons, feed_append (feed_escapeChar t (hu c List.mem_cons_self)),
      ih _ fun d hd => hu d (List.mem_cons_of_mem c hd), List.append_assoc]
    rfl

private theorem closes_of_step {s s' : StringReader} {c : CodePoint} (h : s.step c = some s') :
    s.closes c = false := by
  refine Bool.eq_false_iff.2 fun hc => ?_
  obtain ⟨hplain, hq⟩ := Bool.and_eq_true_iff.1 hc
  unfold step at h
  rw [of_decide_eq_true hplain, CodePoint.eq_of_is hq] at h
  cases h

end StringReader

namespace JsonReader

variable {room : Nat} {stack : List JsonFrame} {isKey : Bool}

/-- What the string reader reads, the document reader reads. -/
private theorem readWithin_feed (isKey : Bool) (hstack : stack.length ≤ room + 1) {s s' : StringReader} {t : PyText}
    (h : s.feed t = some s') (u : PyText) :
    readWithin room ⟨stack, .string isKey s⟩ (t ++ u) = readWithin room ⟨stack, .string isKey s'⟩ u := by
  induction t generalizing s with
  | nil =>
    cases h
    rfl
  | cons c t ih =>
    rw [StringReader.feed_cons] at h
    obtain ⟨q, hq, h⟩ := Option.bind_eq_some_iff.1 h
    have hstep : step ⟨stack, .string isKey s⟩ c = some ⟨stack, .string isKey q⟩ := by
      unfold step
      dsimp only
      rw [StringReader.closes_of_step hq, hq]
      rfl
    rw [List.cons_append, readWithin_cons, stepWithin_of_step hstep hstack]
    exact ih h

/-- A dumped text without surrogates reads back. -/
private theorem readWithin_dumpsString (hstack : stack.length ≤ room + 1) {t : PyText}
    (ht : ∀ c ∈ t, c.isSurrogate = false) {r : JsonReader} (hend : endString stack isKey t = some r)
    (hr : r.stack.length ≤ room + 1) (u : PyText) :
    readWithin room ⟨stack, .string isKey .start⟩ (t.flatMap escapeChar ++
      [.ofChar '"'] ++ u) = r.readWithin room u := by
  have hfeed := readWithin_feed isKey hstack (StringReader.feed_flatMap [] t ht) ([.ofChar '"'] ++ u)
  have hstep : step ⟨stack, .string isKey ⟨t, none, .plain⟩⟩ (.ofChar '"') = some r := by
    show endString stack isKey (t ++ []) = some r
    rw [List.append_nil, hend]
  rw [List.append_assoc]
  refine hfeed.trans ?_
  rw [List.cons_append, readWithin_cons, List.nil_append, stepWithin_of_step hstep hr]
  rfl

/-- Code points that the reader takes one after another. -/
private theorem readWithin_append {r r' : JsonReader} {t : PyText} (h : r.readWithin room t = .ok r') (u : PyText) :
    r.readWithin room (t ++ u) = r'.readWithin room u := by
  unfold readWithin at h ⊢
  rw [List.foldlM_append, h]
  rfl

private theorem readWithin_singleton {r r' : JsonReader} {c : CodePoint} (h : r.step c = some r')
    (hle : r'.stack.length ≤ room + 1) : r.readWithin room [c] = .ok r' := by
  rw [readWithin_cons, stepWithin_of_step h hle]
  rfl

/-- An entry reads back where a key is to come. -/
private theorem readWithin_dumpsEntry {mode : JsonMode} (hmode : mode = .firstKey ∨ mode = .key)
    (d : PyDict PyText PyJson) {e : PyText × PyText} (hkey : ∀ c ∈ e.1, c.isSurrogate = false)
    (hvalue : ∀ c ∈ e.2, c.isSurrogate = false)
    (u : PyText) :
    readWithin room ⟨[.dict d], mode⟩ (dumpsEntry e ++ u) = readWithin room ⟨[.entry d e.1], .done (.str e.2)⟩ u := by
  have hlen : ∀ f : JsonFrame, [f].length ≤ room + 1 := fun _ => Nat.le_add_left _ _
  have hquote : step ⟨[.dict d], mode⟩ (.ofChar '"') = some ⟨[.dict d], .string true .start⟩ := by
    rcases hmode with rfl | rfl <;> rfl
  have hcolon : readWithin room ⟨[.entry d e.1], .colon⟩ (.ofString ": ") = .ok ⟨[.entry d e.1], .value⟩ :=
    (readWithin_append (readWithin_singleton (c := .ofChar ':') rfl (hlen _)) [.ofChar ' ']).trans
      (readWithin_singleton rfl (hlen _))
  have hvalueQuote : step ⟨[.entry d e.1], .value⟩ (.ofChar '"') = some ⟨[.entry d e.1], .string false .start⟩ := rfl
  unfold dumpsEntry dumpsString
  rw [List.append_assoc, List.append_assoc, List.cons_append, List.cons_append, readWithin_cons,
    stepWithin_of_step hquote (hlen _)]
  refine (readWithin_dumpsString (hlen _) hkey rfl (hlen _) _).trans ?_
  rw [readWithin_append hcolon, List.cons_append, List.cons_append, readWithin_cons,
    stepWithin_of_step hvalueQuote (hlen _)]
  exact readWithin_dumpsString (hlen _) hvalue rfl (hlen _) u

/-- The entries after the first read back, up to the end of the dictionary. -/
private theorem readWithin_dumpsRest {es : List (PyText × PyText)}
    (hkeys : ∀ e ∈ es, ∀ c ∈ e.1, c.isSurrogate = false) (hvalues : ∀ e ∈ es, ∀ c ∈ e.2, c.isSurrogate = false)
    (d : PyDict PyText PyJson) (key value : PyText) :
    readWithin room ⟨[.entry d key], .done (.str value)⟩
        (es.flatMap (fun e => PyText.ofString ", " ++ dumpsEntry e) ++ [.ofChar '}']) =
      .ok ⟨[], .done (.dict (es.foldl (fun d e => PyDict.set d e.1 (.str e.2))
        (PyDict.set d key (.str value))))⟩ := by
  induction es generalizing d key value with
  | nil => exact readWithin_singleton rfl (Nat.zero_le _)
  | cons e es ih =>
    have hcomma : readWithin room ⟨[.entry d key], .done (.str value)⟩ (.ofString ", ") =
        .ok ⟨[.dict (PyDict.set d key (.str value))], .key⟩ :=
      (readWithin_append (readWithin_singleton (c := .ofChar ',') rfl (Nat.le_add_left _ _)) [.ofChar ' ']).trans
        (readWithin_singleton rfl (Nat.le_add_left _ _))
    rw [List.flatMap_cons, List.append_assoc, List.append_assoc, readWithin_append hcomma,
      readWithin_dumpsEntry (Or.inr rfl) _ (hkeys e List.mem_cons_self) (hvalues e List.mem_cons_self)]
    exact ih (fun e' he' => hkeys e' (List.mem_cons_of_mem e he'))
      (fun e' he' => hvalues e' (List.mem_cons_of_mem e he')) _ _ _

end JsonReader

/-- A dictionary of strings reads back; of two entries with one key the later is kept. -/
theorem loadsText_dumps (room : Nat) {es : List (PyText × PyText)}
    (hkeys : ∀ e ∈ es, ∀ c ∈ e.1, c.isSurrogate = false) (hvalues : ∀ e ∈ es, ∀ c ∈ e.2, c.isSurrogate = false) :
    loadsText room (dumps es) = .ok (.dict (es.foldl (fun d e => PyDict.set d e.1 (.str e.2)) [])) := by
  have hread : JsonReader.start.readWithin room (dumps es) =
      .ok ⟨[], .done (.dict (es.foldl (fun d e => PyDict.set d e.1 (.str e.2)) []))⟩ := by
    have hbrace : JsonReader.start.step (.ofChar '{') = some ⟨[.dict []], .firstKey⟩ := rfl
    cases es with
    | nil =>
      exact (JsonReader.readWithin_append (JsonReader.readWithin_singleton hbrace (Nat.le_add_left _ _))
        [.ofChar '}']).trans (JsonReader.readWithin_singleton rfl (Nat.zero_le _))
    | cons e es =>
      rw [dumps, List.cons_append, List.cons_append, JsonReader.readWithin_cons,
        JsonReader.stepWithin_of_step hbrace (Nat.le_add_left _ _), List.append_assoc]
      refine (JsonReader.readWithin_dumpsEntry (Or.inl rfl) [] (hkeys e List.mem_cons_self)
        (hvalues e List.mem_cons_self) _).trans ?_
      exact JsonReader.readWithin_dumpsRest (fun e' he' => hkeys e' (List.mem_cons_of_mem e he'))
        (fun e' he' => hvalues e' (List.mem_cons_of_mem e he')) _ _ _
  unfold loadsText
  rw [hread]
  rfl

/-! ### Dumped texts are ASCII -/

private theorem hexCode_lt {n : Nat} (h : n < 16) : (hexCode n).val < 0x80 := by
  have hall : ∀ n < 16, (hexCode n).val < 0x80 := by decide
  exact hall n h

private theorem unicodeEscape_isAscii {n : Nat} (h : n < 0x10000) : PyText.IsAscii (unicodeEscape n) := by
  unfold unicodeEscape PyText.IsAscii
  simp only [List.forall_mem_cons]
  exact ⟨by decide, by decide, hexCode_lt (by omega), hexCode_lt (by omega), hexCode_lt (by omega),
    hexCode_lt (by omega), by simp⟩

private theorem escapeChar_isAscii (c : CodePoint) : PyText.IsAscii (escapeChar c) := by
  have hlt := c.isLt
  unfold escapeChar
  split
  · rename_i hc
    have hc : c.val < 0x80 := by
      rcases Bool.or_eq_true_iff.1 hc with hc | hc <;> rw [CodePoint.eq_of_is hc] <;> decide
    intro d hd
    rcases List.mem_cons.1 hd with rfl | hd
    · decide
    · rw [List.mem_singleton.1 hd]
      exact hc
  split
  · rename_i hrange
    intro d hd
    rw [List.mem_singleton.1 hd]
    omega
  iterate 5
    split
    · exact PyText.isAscii_ofString (by decide)
  split
  · exact unicodeEscape_isAscii ‹_›
  · exact PyText.IsAscii.append (unicodeEscape_isAscii (by omega)) (unicodeEscape_isAscii (by omega))

private theorem dumpsString_isAscii (t : PyText) : (dumpsString t).IsAscii := by
  have hquote : PyText.IsAscii [.ofChar '"'] := fun c hc => by rw [List.mem_singleton.1 hc]; decide
  have hchars : PyText.IsAscii (t.flatMap escapeChar) := by
    intro c hc
    obtain ⟨d, -, hd⟩ := List.mem_flatMap.1 hc
    exact escapeChar_isAscii d c hd
  exact (hquote.append hchars).append hquote

private theorem dumpsEntry_isAscii (e : PyText × PyText) : (dumpsEntry e).IsAscii :=
  ((dumpsString_isAscii e.1).append (PyText.isAscii_ofString (by decide))).append (dumpsString_isAscii e.2)

theorem dumps_isAscii (es : List (PyText × PyText)) : (dumps es).IsAscii := by
  have hbrace : ∀ d, d = '{' ∨ d = '}' → PyText.IsAscii [.ofChar d] := by
    rintro d hd c hc
    rw [List.mem_singleton.1 hc]
    rcases hd with rfl | rfl <;> decide
  cases es with
  | nil => exact PyText.isAscii_ofString (by decide)
  | cons e es =>
    have hrest : PyText.IsAscii (es.flatMap fun e => PyText.ofString ", " ++ dumpsEntry e) := by
      intro c hc
      obtain ⟨e', -, hc⟩ := List.mem_flatMap.1 hc
      exact (PyText.isAscii_ofString (s := ", ") (by decide)).append (dumpsEntry_isAscii e') c hc
    exact (((hbrace '{' (Or.inl rfl)).append (dumpsEntry_isAscii e)).append hrest).append (hbrace '}' (Or.inr rfl))

end CleanBackend
