/-!
# Strings of bytes that are usually text

File names and file contents are strings of bytes. Nearly all of them are UTF-8, so `Octets` keeps
a byte string as text where it is text and as bare bytes only where it is not. Each byte string has
one such form: the constructor `raw` asks for a proof that its bytes are no text.
`Octets.display` shows any byte string to a reader, with the replacement character in place of each
longest piece that cannot begin a character.
-/

namespace PageRoutes

/-- A string of bytes, kept as text where it is valid UTF-8. -/
inductive Octets where
  | text (s : String)
  | raw (bytes : ByteArray) (notText : String.fromUTF8? bytes = none)

namespace Octets

instance : DecidableEq Octets
  | .text s, .text t => decidable_of_iff (s = t) (by simp)
  | .raw b _, .raw c _ =>
    decidable_of_iff (b.data.toList = c.data.toList)
      (by rw [raw.injEq, Array.toList_inj, ByteArray.ext_iff])
  | .text _, .raw _ _ => isFalse nofun
  | .raw _ _, .text _ => isFalse nofun

/-- The form of a byte string: text if its bytes decode, bare bytes otherwise. -/
def ofBytes (bytes : ByteArray) : Octets :=
  match h : String.fromUTF8? bytes with
  | some s => .text s
  | none => .raw bytes h

/-- The bytes of either form. -/
def toBytes : Octets → ByteArray
  | .text s => s.toUTF8
  | .raw bytes _ => bytes

/-- How many bytes there are. -/
def size (o : Octets) : Nat := o.toBytes.size

/-- The first bytes, up to a number of them. -/
def take (count : Nat) (o : Octets) : Octets := ofBytes (o.toBytes.extract 0 count)

/-- The text of a byte string that is text. -/
def text? : Octets → Option String
  | .text s => some s
  | .raw _ _ => none

@[simp] theorem text?_text (s : String) : (Octets.text s).text? = some s := rfl

theorem text?_eq_some {o : Octets} {s : String} : o.text? = some s ↔ o = .text s := by
  cases o <;> simp [text?]

/-- The order of byte strings by their bytes, a shorter one before its extensions. -/
def le (a b : Octets) : Bool :=
  leBytes a.toBytes.data.toList b.toBytes.data.toList
where
  leBytes : List UInt8 → List UInt8 → Bool
    | [], _ => true
    | _ :: _, [] => false
    | x :: xs, y :: ys => x < y || (x == y && leBytes xs ys)

/-! ### Showing bytes that are no text -/

/-- A character that has begun: the bits so far, the bytes still missing, and the range in which the
next byte must lie. -/
structure Pending where
  bits : Nat
  missing : Nat
  low : UInt8
  high : UInt8

/-- What a first byte begins: a whole character, a longer one, or nothing. -/
def Pending.begin (b : UInt8) : Option (Char ⊕ Pending) :=
  let n := b.toNat
  if n < 0x80 then some (.inl (Char.ofNat n))
  else if n < 0xC2 then none
  else if n < 0xE0 then some (.inr ⟨n - 0xC0, 1, 0x80, 0xBF⟩)
  else if n < 0xF0 then
    some (.inr ⟨n - 0xE0, 2, if n = 0xE0 then 0xA0 else 0x80, if n = 0xED then 0x9F else 0xBF⟩)
  else if n < 0xF5 then
    some (.inr ⟨n - 0xF0, 3, if n = 0xF0 then 0x90 else 0x80, if n = 0xF4 then 0x8F else 0xBF⟩)
  else none

/-- The character shown in place of bytes that form none. -/
def replacement : Char := '\ufffd'

/-- Reads characters byte by byte. A piece that breaks off is shown as one replacement character and
the byte that broke it is read afresh. -/
def decodeLossy : Option Pending → List UInt8 → List Char
  | none, [] => []
  | some _, [] => [replacement]
  | pending, b :: rest =>
    let fresh (shown : List Char) : List Char :=
      match Pending.begin b with
      | some (.inl c) => shown ++ c :: decodeLossy none rest
      | some (.inr p) => shown ++ decodeLossy (some p) rest
      | none => shown ++ replacement :: decodeLossy none rest
    match pending with
    | none => fresh []
    | some p =>
      if p.low ≤ b && b ≤ p.high then
        let bits := p.bits * 64 + (b.toNat - 0x80)
        if p.missing ≤ 1 then Char.ofNat bits :: decodeLossy none rest
        else decodeLossy (some ⟨bits, p.missing - 1, 0x80, 0xBF⟩) rest
      else fresh [replacement]

/-- A byte string as text for a reader. -/
def display : Octets → String
  | .text s => s
  | .raw bytes _ => String.ofList (decodeLossy none bytes.data.toList)

end Octets

end PageRoutes
