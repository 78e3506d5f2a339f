import PageRoutes.Fault
import PageRoutes.RoutesModule
import PageRoutes.Json.Reader
/-!
# Options

Where the pages are and which history the router uses. An options file is a JSON object with the
members `pageDir` and `history`, both of which may be left out; other members are passed over. An
array with the two values in this order stands for the same object. The file is read once from
left to right, and its first fault is reported where it is noticed.

## Main definitions

* `Options.parse` : the options that a text stands for.
* `Options.load` : the options in a file.
-/

namespace PageRoutes

/-- The options of a build. -/
structure Options where
  /-- The directory of the pages, as seen from the project's root. -/
  pageDir : DiskPath := ⟨"src/pages"⟩
  historyMode : HistoryMode := .history
  deriving DecidableEq, Repr

namespace Options

open Json (Cursor Read)

/-- Reads the first thing of a value that is not of the wanted kind, and reports it. -/
def wrongKind {α : Type} (wanted : Json.Wanted) (c : Cursor) : Except Json.Fault α :=
  match c.peek? with
  | some 'n' => do
    let c ← Json.readLetters ['u', 'l', 'l'] c.skip
    c.fail (.wrongKind .null wanted)
  | some 't' => do
    let c ← Json.readLetters ['r', 'u', 'e'] c.skip
    c.fail (.wrongKind (.bool true) wanted)
  | some 'f' => do
    let c ← Json.readLetters ['a', 'l', 's', 'e'] c.skip
    c.fail (.wrongKind (.bool false) wanted)
  | some '-' => do
    let (n, c) ← Json.readNumber true c.skip
    c.fail (.wrongKind (.number n) wanted)
  | some '\x22' => do
    let (s, c) ← Json.readString c.skip
    c.fail (.wrongKind (.string s) wanted)
  | some '[' => c.fail (.wrongKind .array wanted)
  | some '{' => c.fail (.wrongKind .object wanted)
  | some x =>
    if x.isDigit then do
      let (n, c) ← Json.readNumber false c
      c.fail (.wrongKind (.number n) wanted)
    else c.failNext .expectedValue
  | none => c.fail .endInValue

/-- Reads a string where one is wanted. -/
def readText (wanted : Json.Wanted) (c : Cursor) : Read String :=
  let c := c.skipBlanks
  if c.peek? == some '\x22' then Json.readString c.skip else wrongKind wanted c

/-- Reads the name of a history mode. -/
def readModeName (c : Cursor) : Except Json.Fault (HistoryMode × Cursor) := do
  let (name, c) ← readText .historyName c
  match HistoryMode.ofName? name with
  | some mode => .ok (mode, c)
  | none => c.fail (.unknownHistory name)

/-- Reads a history mode: its name, or an object whose one member has that name and the value
`null`. -/
def readMode (c : Cursor) : Except Json.Fault (HistoryMode × Cursor) := do
  let c := c.skipBlanks
  match c.peek? with
  | none => c.fail .endInValue
  | some '{' =>
    let (mode, c) ← readModeName c.skip
    let c := (← Json.readColon c).skipBlanks
    let c ←
      match c.peek? with
      | some 'n' => Json.readLetters ['u', 'l', 'l'] c.skip
      | _ => wrongKind .unit c
    let c := c.skipBlanks
    match c.peek? with
    | some '}' => .ok (mode, c.skip)
    | some _ => c.fail .expectedValue
    | none => c.fail .endInObject
  | some x => if x == '\x22' then readModeName c else c.failNext .expectedValue

/-- Reads the page directory. -/
def readPageDir (c : Cursor) : Except Json.Fault (DiskPath × Cursor) := do
  let (text, c) ← readText .pathText c
  .ok (⟨text⟩, c)

/-- The members read so far. -/
structure Members where
  pageDir : Option DiskPath := none
  historyMode : Option HistoryMode := none

/-- The options with the given members. -/
def Members.options (m : Members) : Options :=
  let default : Options := {}
  ⟨m.pageDir.getD default.pageDir, m.historyMode.getD default.historyMode⟩

/-- Reads the value of the member with a key, from its colon on. -/
def readMember (key : String) (m : Members) (c : Cursor) : Except Json.Fault (Members × Cursor) :=
  if key = "pageDir" then
    if m.pageDir.isSome then c.fail (.duplicateField key)
    else do
      let (value, c) ← readPageDir (← Json.readColon c)
      .ok ({ m with pageDir := some value }, c)
  else if key = "history" then
    if m.historyMode.isSome then c.fail (.duplicateField key)
    else do
      let (value, c) ← readMode (← Json.readColon c)
      .ok ({ m with historyMode := some value }, c)
  else do
    let c ← Json.skipValue (← Json.readColon c)
    .ok (m, c)

/-- Reads the members of an object up to its closing brace; `fuel` bounds their number. -/
def readMembers (first : Bool) (m : Members) (c : Cursor) :
    (fuel : Nat) → Except Json.Fault (Members × Cursor)
  | 0 => c.fail .endInObject
  | fuel + 1 => do
    match ← Json.moreMembers first c with
    | (false, c) => .ok (m, c.skip)
    | (true, c) =>
      let (key, c) ← Json.readString c.skip
      let (m, c) ← readMember key m c
      readMembers false m c fuel

/-- Asks that an array ends here. -/
def closeArray (c : Cursor) : Except Json.Fault Cursor :=
  let c := c.skipBlanks
  match c.peek? with
  | none => c.fail .endInList
  | some ']' => .ok c.skip
  | some ',' =>
    let c := c.skip.skipBlanks
    if c.peek? == some ']' then c.failNext .trailingComma else c.failNext .trailingCharacters
  | some _ => c.failNext .trailingCharacters

/-- Reads the two values of an array, as far as they are there. -/
def readArray (c : Cursor) : Except Json.Fault (Members × Cursor) := do
  match ← Json.moreElements true c with
  | (false, c) => .ok ({}, ← closeArray c)
  | (true, c) =>
    let (pageDir, c) ← readPageDir c
    match ← Json.moreElements false c with
    | (false, c) => .ok ({ pageDir := some pageDir }, ← closeArray c)
    | (true, c) =>
      let (mode, c) ← readMode c
      .ok ({ pageDir := some pageDir, historyMode := some mode }, ← closeArray c)

/-- Reads options from an object or an array. -/
def read (c : Cursor) : Except Json.Fault (Options × Cursor) := do
  let c := c.skipBlanks
  let (m, c) ←
    match c.peek? with
    | none => c.fail .endInValue
    | some '[' => readArray c.skip
    | some '{' => readMembers true {} c.skip (c.rest.length + 1)
    | some _ => wrongKind .optionsObject c
  .ok (m.options, c)

/-- The options that a text stands for. -/
def parse (text : String) : Except Json.Fault Options := read (.ofText text) >>= Json.finish

/-- The options in a file. -/
def load (disk : Disk) (workingDir path : DiskPath) : Except Fault Options :=
  match disk.readText workingDir path with
  | .error cause => .error (.disk path cause)
  | .ok text =>
    match parse text with
    | .error cause => .error (.options path cause)
    | .ok options => .ok options

/-- The options with another page directory. -/
def withPageDir (o : Options) (pageDir : DiskPath) : Options := { o with pageDir }

/-- The options with another history mode. -/
def withHistory (o : Options) (historyMode : HistoryMode) : Options := { o with historyMode }

end Options

end PageRoutes
