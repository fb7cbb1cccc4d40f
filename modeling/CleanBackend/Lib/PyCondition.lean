import Mathlib.Data.List.Infix

/-!
# Conditions in Python

The fragment of Python's expressions that policy conditions are written in: names with attributes, string literals,
`==`, `!=`, `in`, `not in`, `not`, `and`, `or` and parentheses, over strings, tuples of strings and booleans.
`PyExpr.eval` gives the value of an expression, and `none` where Python raises; `evalText` is `eval(text)` as a truth
value.
-/

namespace CleanBackend

inductive PyValue where
  | str (s : String)
  | tuple (items : List String)
  | bool (b : Bool)
  deriving DecidableEq, Repr

def PyValue.truthy : PyValue → Bool
  | str s => s ≠ ""
  | tuple items => items ≠ []
  | bool b => b

inductive PyExpr where
  | name (path : String)
  | str (s : String)
  | eq (a b : PyExpr)
  | isIn (a b : PyExpr)
  | not (a : PyExpr)
  | and (a b : PyExpr)
  | or (a b : PyExpr)
  deriving DecidableEq, Repr

/-- `a in b` -/
def PyValue.isIn : PyValue → PyValue → Option Bool
  | str s, tuple items => some (items.contains s)
  | _, tuple _ => some false
  | str s, str t => some (decide (s.toList <:+: t.toList))
  | _, _ => none

/-- `and` and `or` give the operand that decides. -/
def PyExpr.eval (env : String → Option PyValue) : PyExpr → Option PyValue
  | name path => env path
  | str s => some (.str s)
  | eq a b => do some (.bool ((← a.eval env) == (← b.eval env)))
  | isIn a b => do some (.bool (← (← a.eval env).isIn (← b.eval env)))
  | not a => do some (.bool !(← a.eval env).truthy)
  | and a b => do
    let v ← a.eval env
    if v.truthy then b.eval env else some v
  | or a b => do
    let v ← a.eval env
    if v.truthy then some v else b.eval env

/-! ### Tokens -/

inductive PyToken where
  | word (s : String)
  | str (s : String)
  | eq
  | ne
  | opening
  | closing
  deriving DecidableEq, Repr

/-- The token that the characters read so far belong to, in reverse. -/
inductive PyLexState where
  | idle
  | word (chars : List Char)
  | str (quote : Char) (chars : List Char)
  | operator (first : Char)

def isWordChar (c : Char) : Bool := c.isAlphanum || c == '_' || c == '.'

/-- The token a single character starts, outside a token. -/
def lexChar (c : Char) : Option (PyLexState × List PyToken) :=
  if c == ' ' then some (.idle, [])
  else if c == '(' then some (.idle, [.opening])
  else if c == ')' then some (.idle, [.closing])
  else if c == '\'' || c == '"' then some (.str c [], [])
  else if c == '=' || c == '!' then some (.operator c, [])
  else if isWordChar c then some (.word [c], [])
  else none

def lexFrom : PyLexState → List Char → Option (List PyToken)
  | .idle, [] => some []
  | .word chars, [] => some [.word (String.ofList chars.reverse)]
  | _, [] => none
  | .idle, c :: cs => do
    let (st, ts) ← lexChar c
    return ts ++ (← lexFrom st cs)
  | .word chars, c :: cs =>
    if isWordChar c then lexFrom (.word (c :: chars)) cs
    else do
      let (st, ts) ← lexChar c
      return .word (String.ofList chars.reverse) :: (ts ++ (← lexFrom st cs))
  | .str quote chars, c :: cs =>
    if c == quote then do return .str (String.ofList chars.reverse) :: (← lexFrom .idle cs)
    -- an escape is outside the fragment
    else if c == '\\' then none
    else lexFrom (.str quote (c :: chars)) cs
  | .operator first, c :: cs =>
    if c == '=' then do return (if first == '=' then .eq else .ne) :: (← lexFrom .idle cs) else none

/-! ### The grammar -/

mutual

/-- `or_test`; the first argument bounds the depth of the call. -/
def parseOr : Nat → List PyToken → Option (PyExpr × List PyToken)
  | 0, _ => none
  | n + 1, ts => do
    match ← parseAnd n ts with
    | (a, .word "or" :: ts) => do
      let (b, ts) ← parseOr n ts
      return (.or a b, ts)
    | (a, ts) => return (a, ts)

/-- `and_test` -/
def parseAnd : Nat → List PyToken → Option (PyExpr × List PyToken)
  | 0, _ => none
  | n + 1, ts => do
    match ← parseNot n ts with
    | (a, .word "and" :: ts) => do
      let (b, ts) ← parseAnd n ts
      return (.and a b, ts)
    | (a, ts) => return (a, ts)

/-- `not_test` -/
def parseNot : Nat → List PyToken → Option (PyExpr × List PyToken)
  | 0, _ => none
  | n + 1, .word "not" :: ts => do
    let (a, ts) ← parseNot n ts
    return (.not a, ts)
  | n + 1, ts => parseComparison n ts

/-- `comparison`, without chains -/
def parseComparison : Nat → List PyToken → Option (PyExpr × List PyToken)
  | 0, _ => none
  | n + 1, ts => do
    match ← parseAtom n ts with
    | (a, .eq :: ts) => do
      let (b, ts) ← parseAtom n ts
      return (.eq a b, ts)
    | (a, .ne :: ts) => do
      let (b, ts) ← parseAtom n ts
      return (.not (.eq a b), ts)
    | (a, .word "in" :: ts) => do
      let (b, ts) ← parseAtom n ts
      return (.isIn a b, ts)
    | (a, .word "not" :: .word "in" :: ts) => do
      let (b, ts) ← parseAtom n ts
      return (.not (.isIn a b), ts)
    | (a, ts) => return (a, ts)

/-- `atom` -/
def parseAtom : Nat → List PyToken → Option (PyExpr × List PyToken)
  | 0, _ => none
  | n + 1, .opening :: ts => do
    match ← parseOr n ts with
    | (a, .closing :: ts) => return (a, ts)
    | _ => none
  | _, .word path :: ts => some (.name path, ts)
  | _, .str s :: ts => some (.str s, ts)
  | _, _ => none

end

/-- The expression a text denotes; every level of the grammar is entered once for each token. -/
def parseCondition (text : String) : Option PyExpr := do
  let ts ← lexFrom .idle text.toList
  match ← parseOr (5 * (ts.length + 1)) ts with
  | (e, []) => some e
  | _ => none

/-- `bool(eval(text))` -/
def evalText (env : String → Option PyValue) (text : String) : Option Bool := do
  let e ← parseCondition text
  return (← e.eval env).truthy

theorem evalText_eq {env : String → Option PyValue} {text : String} {e : PyExpr} (h : parseCondition text = some e) :
    evalText env text = (e.eval env).map PyValue.truthy := by
  simp only [evalText, h, Option.bind_eq_bind, Option.bind_some]
  cases e.eval env <;> rfl

end CleanBackend
