import PageRoutes.Json.NumberReader
import PageRoutes.Json.Text
/-!
# Reading JSON

Reads one JSON value that fills a whole text. Arrays and objects may be nested to a depth of 127.
The first thing that is wrong with a text decides the fault and its place.

## Main definitions

* `Json.readValue` : one value at a cursor, within a depth.
* `Json.parse` : the value of a whole text.
* `Json.skipValue` : passes over one value at a cursor, to any depth.
-/

namespace PageRoutes.Json

/-- The greatest depth, counted so that the outermost value is at depth zero. -/
def depthLimit : Nat := 128

/-- Reads the remaining letters of `null`, `true` or `false`. -/
def readLetters (expected : List Char) (c : Cursor) : Except Fault Cursor :=
  match expected with
  | [] => .ok c
  | x :: rest =>
    match c.peek? with
    | none => c.fail .endInValue
    | some y => if y == x then readLetters rest c.skip else c.failNext .expectedIdent

/-- Whether another element of an array begins here. The flag tells whether it would be the first.
-/
def moreElements (first : Bool) (c : Cursor) : Read Bool :=
  let c := c.skipBlanks
  match c.peek? with
  | none => c.fail .endInList
  | some ']' => .ok (false, c)
  | some x =>
    if first then .ok (true, c)
    else if x == ',' then
      let c := c.skip.skipBlanks
      match c.peek? with
      | none => c.fail .endInValue
      | some ']' => c.failNext .trailingComma
      | some _ => .ok (true, c)
    else c.failNext .expectedListCommaOrEnd

/-- Whether another member of an object begins here. -/
def moreMembers (first : Bool) (c : Cursor) : Read Bool :=
  let c := c.skipBlanks
  match c.peek? with
  | none => c.fail .endInObject
  | some '}' => .ok (false, c)
  | some x =>
    if first then
      if x == '\x22' then .ok (true, c) else c.failNext .keyNotString
    else if x == ',' then
      let c := c.skip.skipBlanks
      match c.peek? with
      | none => c.fail .endInValue
      | some '\x22' => .ok (true, c)
      | some '}' => c.failNext .trailingComma
      | some _ => c.failNext .keyNotString
    else c.failNext .expectedObjectCommaOrEnd

/-- Reads the colon after a key. -/
def readColon (c : Cursor) : Except Fault Cursor :=
  let c := c.skipBlanks
  match c.peek? with
  | none => c.fail .endInObject
  | some x => if x == ':' then .ok c.skip else c.failNext .expectedColon

/-- Reads elements up to the closing bracket; `fuel` bounds their number. -/
def readElements (read : Cursor → Read Json) (soFar : List Json) (c : Cursor) :
    (fuel : Nat) → Read (List Json)
  | 0 => c.fail .endInList
  | fuel + 1 =>
    match moreElements soFar.isEmpty c with
    | .error f => .error f
    | .ok (false, c) => .ok (soFar.reverse, c.skip)
    | .ok (true, c) =>
      match read c with
      | .error f => .error f
      | .ok (item, c) => readElements read (item :: soFar) c fuel

/-- Reads members up to the closing brace; `fuel` bounds their number. -/
def readMembers (read : Cursor → Read Json) (first : Bool) (soFar : List (String × Json))
    (c : Cursor) : (fuel : Nat) → Read (List (String × Json))
  | 0 => c.fail .endInObject
  | fuel + 1 =>
    match moreMembers first c with
    | .error f => .error f
    | .ok (false, c) => .ok (soFar, c.skip)
    | .ok (true, c) =>
      match readString c.skip with
      | .error f => .error f
      | .ok (key, c) =>
        match readColon c with
        | .error f => .error f
        | .ok c =>
          match read c with
          | .error f => .error f
          | .ok (value, c) => readMembers read false (insertMember key value soFar) c fuel

/-- Reads one value within a depth. -/
def readValue : (depth : Nat) → Cursor → Read Json
  | depth, c =>
    let c := c.skipBlanks
    match c.peek? with
    | none => c.fail .endInValue
    | some 'n' => (readLetters ['u', 'l', 'l'] c.skip).map fun c => (.null, c)
    | some 't' => (readLetters ['r', 'u', 'e'] c.skip).map fun c => (.bool true, c)
    | some 'f' => (readLetters ['a', 'l', 's', 'e'] c.skip).map fun c => (.bool false, c)
    | some '-' => (readNumber true c.skip).map fun r => (.number r.1, r.2)
    | some '\x22' => (readString c.skip).map fun r => (.string r.1, r.2)
    | some '[' =>
      match depth with
      | 0 => c.failNext .tooDeep
      | 1 => c.failNext .tooDeep
      | depth + 1 =>
        (readElements (readValue depth) [] c.skip (c.rest.length + 1)).map
          fun r => (.array r.1, r.2)
    | some '{' =>
      match depth with
      | 0 => c.failNext .tooDeep
      | 1 => c.failNext .tooDeep
      | depth + 1 =>
        (readMembers (readValue depth) true [] c.skip (c.rest.length + 1)).map
          fun r => (.object r.1, r.2)
    | some x =>
      if x.isDigit then (readNumber false c).map fun r => (.number r.1, r.2)
      else c.failNext .expectedValue

/-- Asks that nothing but blanks is left. -/
def finish {α : Type} (r : α × Cursor) : Except Fault α :=
  let c := r.2.skipBlanks
  if c.rest.isEmpty then .ok r.1 else c.failNext .trailingCharacters

/-- The value of a whole text. -/
def parse (text : String) : Except Fault Json := readValue depthLimit (.ofText text) >>= finish

/-! ### Passing over a value -/

/-- An array or object that is being passed over. -/
inductive Frame where
  | list
  | object
  deriving DecidableEq

/-- Passes over a number, from after its sign. -/
def skipNumber (c : Cursor) : Except Fault Cursor := do
  let c ←
    match c.peek? with
    | some '0' => if (digit? c.skip).isSome then c.skip.failNext .invalidNumber else .ok c.skip
    | none => c.fail .invalidNumber
    | some _ =>
      if (digit? c).isSome then .ok (skipDigits c).2 else c.skip.fail .invalidNumber
  let c ←
    if c.peek? == some '.' then
      let (count, c) := skipDigits c.skip
      if count == 0 then c.failNext .invalidNumber else .ok c
    else .ok c
  if atExponent c then
    let c := c.skip
    let c := if c.peek? == some '+' || c.peek? == some '-' then c.skip else c
    if (digit? c).isSome then .ok (skipDigits c).2 else c.failNext .invalidNumber
  else .ok c

/-- Passes over the key of a member and its colon. -/
def skipKey (c : Cursor) : Except Fault Cursor := do
  let c := c.skipBlanks
  match c.peek? with
  | none => c.fail .endInObject
  | some x =>
    if x == '\x22' then readColon (← skipString c.skip) else c.failNext .keyNotString

/-- After a value: closes every frame that ends here and passes over the comma before the next
value. Returns the frames still open, none of them when the outermost value is complete. -/
def skipToNext (afterValue : Bool) (frames : List Frame) (c : Cursor) :
    (fuel : Nat) → Read (List Frame)
  | 0 => .ok ([], c)
  | fuel + 1 =>
    match frames with
    | [] => .ok ([], c)
    | frame :: outer =>
      let c := c.skipBlanks
      match c.peek? with
      | none => c.fail (if frame == .list then .endInList else .endInObject)
      | some x =>
        if x == ',' && afterValue then .ok (frames, c.skip)
        else if x == (if frame == .list then ']' else '}') then skipToNext true outer c.skip fuel
        else if afterValue then
          c.failNext (if frame == .list then .expectedListCommaOrEnd else .expectedObjectCommaOrEnd)
        else .ok (frames, c)

/-- Passes over values with the given frames open; `fuel` bounds their number. -/
def skipValues (frames : List Frame) (c : Cursor) : (fuel : Nat) → Except Fault Cursor
  | 0 => c.fail .endInValue
  | fuel + 1 => do
    let c := c.skipBlanks
    let (afterValue, frames, c) ← (
      match c.peek? with
      | none => c.fail .endInValue
      | some 'n' => (readLetters ['u', 'l', 'l'] c.skip).map fun c => (true, frames, c)
      | some 't' => (readLetters ['r', 'u', 'e'] c.skip).map fun c => (true, frames, c)
      | some 'f' => (readLetters ['a', 'l', 's', 'e'] c.skip).map fun c => (true, frames, c)
      | some '-' => (skipNumber c.skip).map fun c => (true, frames, c)
      | some '\x22' => (skipString c.skip).map fun c => (true, frames, c)
      | some '[' => .ok (false, .list :: frames, c.skip)
      | some '{' => .ok (false, .object :: frames, c.skip)
      | some x =>
        if x.isDigit then (skipNumber c).map fun c => (true, frames, c)
        else c.failNext .expectedValue : Except Fault (Bool × List Frame × Cursor))
    let (frames, c) ← skipToNext afterValue frames c (c.rest.length + 2)
    match frames with
    | [] => .ok c
    | .list :: _ => skipValues frames c fuel
    | .object :: _ => skipValues frames (← skipKey c) fuel

/-- Passes over one value, to any depth. -/
def skipValue (c : Cursor) : Except Fault Cursor := skipValues [] c (c.rest.length + 1)

end PageRoutes.Json
