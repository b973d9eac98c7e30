import RemoteConfig.Json.Scan
import RemoteConfig.Json.Value

/-!
# Reading JSON texts

Readers for the parts of a document, from the front of the text to its back,
so that the first fault met is the one reported.  `nextElement` and `nextName`
step through an array or an object; `elements` and `members` are the loops
over them.  `value` builds a value and bounds its nesting; `skip` passes over
a value of any nesting.
-/

namespace RemoteConfig.Json

/-- How deep values that are kept may be nested. -/
def nestingBound : Nat := 127

/-- The fault of finding some other value where the text at hand stands.  The
value is read if it is a word, so that its own fault comes first. -/
def unexpected (cs : List Char) : Fault :=
  let after {α : Type} (read : Except Fault α) : Fault :=
    match read with
    | .ok _ => .mismatched
    | .error e => e
  match cs with
  | [] => .malformed
  | c :: rest =>
    if c = 'n' then after (literal "ull".toList rest)
    else if c = 't' then after (literal "rue".toList rest)
    else if c = 'f' then after (literal "alse".toList rest)
    else if c = '-' then after (number true rest)
    else if Decimal.isDigit c then after (number false cs)
    else if c = '"' then after (string rest)
    else if c = '[' || c = '{' then .mismatched
    else .malformed

/-! ## Arrays and objects -/

/-- The text of the next element of an array, or nothing before the closing
bracket. -/
def nextElement (first : Bool) (cs : List Char) : Except Fault (Option (List Char)) :=
  match skipSpace cs with
  | [] => .error .ended
  | c :: rest =>
    if c = ']' then .ok none
    else if first then .ok (some (c :: rest))
    else if c = ',' then
      match skipSpace rest with
      | [] => .error .ended
      | d :: more => if d = ']' then .error .malformed else .ok (some (d :: more))
    else .error .malformed

/-- The closing bracket of an array. -/
def endArray : Reader Unit := fun cs =>
  match skipSpace cs with
  | [] => .error .ended
  | c :: rest => if c = ']' then .ok ((), rest) else .error .malformed

/-- The text after the opening quote of the next member's name, or nothing and
the text after the closing brace. -/
def nextName (first : Bool) (cs : List Char) : Except Fault (Option (List Char) × List Char) :=
  match skipSpace cs with
  | [] => .error .ended
  | c :: rest =>
    if c = '}' then .ok (none, rest)
    else if first then
      if c = '"' then .ok (some rest, []) else .error .malformed
    else if c = ',' then
      match skipSpace rest with
      | [] => .error .ended
      | d :: more => if d = '"' then .ok (some more, []) else .error .malformed
    else .error .malformed

/-- The colon after a name. -/
def colon : Reader Unit := fun cs =>
  match skipSpace cs with
  | [] => .error .ended
  | c :: rest => if c = ':' then .ok ((), rest) else .error .malformed

/-- The elements of an array up to its closing bracket. -/
def elements {α : Type} (read : Reader α) :
    (fuel : Nat) → (first : Bool) → Reader (List α)
  | 0, _, _ => .error .malformed
  | fuel + 1, first, cs => do
    match ← nextElement first cs with
    | none =>
      let (_, rest) ← endArray cs
      return ([], rest)
    | some cs =>
      let (x, cs) ← read cs
      let (xs, cs) ← elements read fuel false cs
      return (x :: xs, cs)

/-- The members of an object up to its closing brace.  `name` reads a name
after its opening quote, and `step` reads what follows it. -/
def members {ν σ : Type} (name : Reader ν) (step : σ → ν → Reader σ) :
    (fuel : Nat) → (first : Bool) → σ → Reader σ
  | 0, _, _, _ => .error .malformed
  | fuel + 1, first, state, cs => do
    match ← nextName first cs with
    | (none, rest) => return (state, rest)
    | (some cs, _) =>
      let (n, cs) ← name cs
      let (state, cs) ← step state n cs
      members name step fuel false state cs

/-- The elements of an array, after its opening bracket. -/
def arrayOf {α : Type} (read : Reader α) : Reader (List α) := fun cs =>
  elements read (cs.length + 1) true cs

/-- The members of an object, after its opening brace. -/
def objectOf {ν σ : Type} (name : Reader ν) (step : σ → ν → Reader σ) (start : σ) : Reader σ :=
  fun cs => members name step (cs.length + 1) true start cs

/-! ## Values -/

/-- A member of an object that is kept: the last one of a name counts. -/
def keepMember (read : Reader Json) (sofar : List (String × Json)) (name : String) :
    Reader (List (String × Json)) := fun cs => do
  let (_, cs) ← colon cs
  let (v, cs) ← read cs
  return (TextMap.insertPair (fun _ new => new) name v sofar, cs)

/-- A value that may be nested `depth` levels deep. -/
def value : (depth : Nat) → Reader Json
  | depth, cs =>
    match skipSpace cs with
    | [] => .error .ended
    | c :: rest =>
      if c = 'n' then (literal "ull".toList rest).map fun (_, cs) => (.null, cs)
      else if c = 't' then (literal "rue".toList rest).map fun (_, cs) => (.bool true, cs)
      else if c = 'f' then (literal "alse".toList rest).map fun (_, cs) => (.bool false, cs)
      else if c = '"' then (string rest).map fun (s, cs) => (.text s, cs)
      else if c = '-' || Decimal.isDigit c then
        (number (c = '-') (if c = '-' then rest else c :: rest)).map fun
          | (.integer i, cs) => (.integer i, cs)
          | (.double d, cs) => (.double d, cs)
      else if c = '[' then
        match depth with
        | 0 => .error .malformed
        | depth + 1 => (arrayOf (value depth) rest).map fun (vs, cs) => (.array vs, cs)
      else if c = '{' then
        match depth with
        | 0 => .error .malformed
        | depth + 1 =>
          (objectOf string (keepMember (value depth)) [] rest).map fun (ms, cs) => (.object ms, cs)
      else .error .malformed

/-- Passes over the value of a member. -/
def skipMember (read : Reader Unit) (_ _ : Unit) : Reader Unit := fun cs => do
  let (_, cs) ← colon cs
  read cs

/-- Passes over a value that is nested less than `depth` levels deep. -/
def skipNested : (depth : Nat) → Reader Unit
  | 0, _ => .error .malformed
  | depth + 1, cs =>
    match skipSpace cs with
    | [] => .error .ended
    | c :: rest =>
      if c = 'n' then literal "ull".toList rest
      else if c = 't' then literal "rue".toList rest
      else if c = 'f' then literal "alse".toList rest
      else if c = '"' then skipString rest
      else if c = '-' then skipNumber rest
      else if Decimal.isDigit c then skipNumber (c :: rest)
      else if c = '[' then (arrayOf (skipNested depth) rest).map fun (_, cs) => ((), cs)
      else if c = '{' then objectOf skipString (skipMember (skipNested depth)) () rest
      else .error .malformed

/-- Passes over a value.  No value is nested deeper than its text is long. -/
def skip : Reader Unit := fun cs =>
  skipNested (cs.length + 1) cs

/-- Nothing but blanks may follow a document. -/
def finish {α : Type} (read : Except Fault (α × List Char)) : Except Fault α := do
  let (x, rest) ← read
  if (skipSpace rest).isEmpty then return x else .error .malformed

end RemoteConfig.Json
