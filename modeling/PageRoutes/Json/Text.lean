import PageRoutes.Json.Cursor
/-!
# JSON string literals

Reading the inside of a string literal, from after its opening quote to after its closing one. An
escape `\u` stands for one UTF-16 unit, and two surrogate units in a row for one character; a unit
that is half of a pair on its own is a fault.
-/

namespace PageRoutes.Json

/-- The value of a hexadecimal digit. -/
def hexValue? (c : Char) : Option Nat :=
  if c.isDigit then some (c.toNat - 48)
  else if 'a' ≤ c && c ≤ 'f' then some (c.toNat - 87)
  else if 'A' ≤ c && c ≤ 'F' then some (c.toNat - 55)
  else none

/-- Reads the four digits of a `\u` escape. -/
def readUnit (c : Cursor) : Read Nat :=
  match c.rest with
  | a :: b :: d :: e :: _ =>
    match hexValue? a, hexValue? b, hexValue? d, hexValue? e with
    | some a, some b, some d, some e =>
      .ok (((a * 16 + b) * 16 + d) * 16 + e, c.skip.skip.skip.skip)
    | _, _, _, _ =>
      let place := c.placeAfter 4
      .error ⟨.invalidEscape, place.1, place.2⟩
  | cs =>
    if cs.foldl (fun n x => n + x.utf8Size) 0 < 4 then c.toEnd.fail .endInString
    else
      let place := c.placeAfter 4
      .error ⟨.invalidEscape, place.1, place.2⟩

/-- Reads one expected character between the halves of a pair. -/
def readBetweenHalves (expected : Char) (c : Cursor) : Except Fault Cursor :=
  match c.peek? with
  | none => c.fail .endInString
  | some x => if x == expected then .ok c.skip else c.failNext .unfinishedPair

/-- Reads the rest of a `\u` escape: one unit, or both units of a pair. -/
def readUnicodeEscape (c : Cursor) : Except Fault (Char × Cursor) := do
  let (n, c) ← readUnit c
  if 0xDC00 ≤ n && n ≤ 0xDFFF then c.fail .loneSurrogate
  else if 0xD800 ≤ n && n ≤ 0xDBFF then
    let c ← readBetweenHalves '\\' c
    let c ← readBetweenHalves 'u' c
    let (m, c) ← readUnit c
    if m < 0xDC00 || 0xDFFF < m then c.fail .loneSurrogate
    else .ok (Char.ofNat (0x10000 + (n - 0xD800) * 0x400 + (m - 0xDC00)), c)
  else .ok (Char.ofNat n, c)

/-- The character of an escape with one letter. -/
def simpleEscape? (x : Char) : Option Char :=
  match x with
  | '\x22' => some '\x22'
  | '\\' => some '\\'
  | '/' => some '/'
  | 'b' => some '\x08'
  | 'f' => some '\x0c'
  | 'n' => some '\n'
  | 'r' => some '\r'
  | 't' => some '\t'
  | _ => none

/-- Reads an escape, from after its backslash. -/
def readEscape (c : Cursor) : Read Char :=
  match c.peek? with
  | none => c.fail .endInString
  | some 'u' => readUnicodeEscape c.skip
  | some x =>
    match simpleEscape? x with
    | some y => .ok (y, c.skip)
    | none => c.failNext .invalidEscape

/-- Reads the characters of a literal; `fuel` bounds their number. -/
def readCharacters (soFar : List Char) (c : Cursor) : (fuel : Nat) → Read String
  | 0 => c.fail .endInString
  | fuel + 1 =>
    match c.peek? with
    | none => c.fail .endInString
    | some '\x22' => .ok (String.ofList soFar.reverse, c.skip)
    | some '\\' =>
      match readEscape c.skip with
      | .ok (x, c) => readCharacters (x :: soFar) c fuel
      | .error f => .error f
    | some x =>
      if x.toNat < 0x20 then c.skip.fail .controlCharacter
      else readCharacters (x :: soFar) c.skip fuel

/-- Reads a literal, from after its opening quote. -/
def readString (c : Cursor) : Read String := readCharacters [] c (c.rest.length + 1)

/-- Passes over an escape, from after its backslash, without asking which character it stands for.
-/
def skipEscape (c : Cursor) : Except Fault Cursor :=
  match c.peek? with
  | none => c.fail .endInString
  | some 'u' => (readUnit c.skip).map Prod.snd
  | some x => if (simpleEscape? x).isSome then .ok c.skip else c.failNext .invalidEscape

/-- Passes over the characters of a literal; `fuel` bounds their number. -/
def skipCharacters (c : Cursor) : (fuel : Nat) → Except Fault Cursor
  | 0 => c.fail .endInString
  | fuel + 1 =>
    match c.peek? with
    | none => c.fail .endInString
    | some '\x22' => .ok c.skip
    | some '\\' =>
      match skipEscape c.skip with
      | .ok c => skipCharacters c fuel
      | .error f => .error f
    | some x => if x.toNat < 0x20 then c.fail .controlCharacter else skipCharacters c.skip fuel

/-- Passes over a literal, from after its opening quote. -/
def skipString (c : Cursor) : Except Fault Cursor := skipCharacters c (c.rest.length + 1)

end PageRoutes.Json
