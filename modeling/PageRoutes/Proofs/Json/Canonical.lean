import PageRoutes.Json.Reader
import PageRoutes.Proofs.Decimal.Ratio
import PageRoutes.Proofs.Json.Unambiguous
/-!
# The numbers that are read are as they are kept

A number that is not an integer of 64 bits is read as a significand that is rounded and then scaled
by powers of ten. Every step gives a number of the 64-bit format with all bits of its significand,
so that a value that has been read has all its numbers as they are kept.

## Main definitions

* `Json.Gives` : whether what is read has a property.

## Main results

* `Json.gives_readNumber` : the number that is read.
* `Json.isCanonical_of_parse` : the numbers in the value of a text.
-/

namespace PageRoutes

namespace Binary64

variable {x y z : Binary64}

theorem den_pos (x : Binary64) : 0 < x.den := by
  rw [den, Nat.pow_eq]
  positivity

theorem isCanonical_ofNat {n : Nat} (h : ofNat n = some x) : x.IsCanonical :=
  (rounds_ofRatio Nat.one_pos h).1

theorem isCanonical_mul (h : x.mul y = some z) : z.IsCanonical :=
  (rounds_ofRatio (Nat.mul_pos x.den_pos y.den_pos) h).1

theorem isCanonical_div (hy : 0 < y.num) (h : x.div y = some z) : z.IsCanonical :=
  (rounds_ofRatio (Nat.mul_pos x.den_pos hy) h).1

end Binary64

namespace Json

variable {α : Type} {p : α → Prop} {q : Json → Prop} {c : Cursor}

/-! ### Scaling -/

/-- The powers of ten by which numbers are divided are not zero. -/
theorem num_powerOfTen_pos : ∀ n < 309, 0 < (powerOfTen n).num := by
  decide +kernel

/-- Scaling gives a number as it is kept. -/
theorem isCanonical_of_scale {x y : Binary64} {exponent : Int} {fuel : Nat} (hx : x.IsCanonical)
    (h : scale x exponent fuel = some y) : y.IsCanonical := by
  induction fuel generalizing x exponent with
  | zero => rwa [← Option.some.inj h]
  | succ fuel ih =>
    rw [scale] at h
    split at h
    · next hsmall =>
      split at h
      · exact Binary64.isCanonical_mul h
      · exact Binary64.isCanonical_div (num_powerOfTen_pos _ (by omega)) h
    · split at h
      · rwa [← Option.some.inj h]
      · split at h
        · cases h
        · obtain ⟨y, hstep, hscale⟩ := Option.bind_eq_some_iff.mp h
          exact ih (Binary64.isCanonical_div (num_powerOfTen_pos 308 (by omega)) hstep) hscale

/-! ### What reading gives -/

/-- Whether what is read, if something is, has a property. -/
def Gives (p : α → Prop) (r : Read α) : Prop := ∀ v c, r = .ok (v, c) → p v

theorem gives_ok {v : α} (h : p v) : Gives p (.ok (v, c)) := by
  rintro _ _ ⟨⟩
  exact h

theorem gives_error (f : Fault) : Gives p (.error f) := by
  rintro _ _ ⟨⟩

theorem gives_fail (c : Cursor) (cause : Cause) : Gives p (c.fail cause) := gives_error _

theorem gives_failNext (c : Cursor) (cause : Cause) : Gives p (c.failNext cause) := gives_error _

/-- What is made of a result. -/
theorem Gives.map {r : Read α} {f : α × Cursor → Json × Cursor} (h : Gives p r)
    (hf : ∀ v c, p v → q (f (v, c)).1) : Gives q (r.map f) := by
  cases r with
  | error fault => exact gives_error _
  | ok found => exact gives_ok (hf _ _ (h found.1 found.2 rfl))

/-! ### Numbers -/

theorem gives_readFloat (isNegative : Bool) (significand : Nat) (exponent : Int) (c : Cursor) :
    Gives JsonNumber.IsCanonical (readFloat isNegative significand exponent c) := by
  rw [readFloat]
  split
  · next x hx =>
    obtain ⟨y, hy, hscale⟩ := Option.bind_eq_some_iff.mp hx
    exact gives_ok (isCanonical_of_scale (Binary64.isCanonical_ofNat hy) hscale)
  · exact gives_fail _ _

theorem gives_readExponent (isNegative : Bool) (significand : Nat) (exponent : Int) (c : Cursor) :
    Gives JsonNumber.IsCanonical (readExponent isNegative significand exponent c) := by
  rw [readExponent]
  split
  · exact gives_fail _ _
  · split
    · exact gives_failNext _ _
    · split
      · exact gives_readFloat _ _ _ _
      · split
        · exact gives_fail _ _
        · exact gives_ok Binary64.isCanonical_zero

theorem gives_readDecimal (isNegative : Bool) (significand : Nat) (exponent : Int) (c : Cursor) :
    Gives JsonNumber.IsCanonical (readDecimal isNegative significand exponent c) := by
  rw [readDecimal]
  split
  extract_lets exponent c
  split
  · split
    · exact gives_failNext _ _
    · exact gives_fail _ _
  · split
    · exact gives_readExponent _ _ _ _
    · exact gives_readFloat _ _ _ _

theorem gives_readAfterInteger (isNegative : Bool) (significand : Nat) (c : Cursor) :
    Gives JsonNumber.IsCanonical (readAfterInteger isNegative significand c) := by
  rw [readAfterInteger]
  split_ifs
  · exact gives_readDecimal _ _ _ _
  · exact gives_readExponent _ _ _ _
  · exact gives_ok trivial
  · exact gives_readFloat _ _ _ _
  · exact gives_ok trivial

theorem gives_readLongInteger (isNegative : Bool) (significand : Nat) (c : Cursor) :
    Gives JsonNumber.IsCanonical (readLongInteger isNegative significand c) := by
  rw [readLongInteger]
  split
  extract_lets exponent
  split_ifs
  · exact gives_readDecimal _ _ _ _
  · exact gives_readExponent _ _ _ _
  · exact gives_readFloat _ _ _ _

theorem gives_readInteger (isNegative : Bool) (significand : Nat) (c : Cursor) (fuel : Nat) :
    Gives JsonNumber.IsCanonical (readInteger isNegative significand c fuel) := by
  induction fuel generalizing significand c with
  | zero => exact gives_readAfterInteger _ _ _
  | succ fuel ih =>
    rw [readInteger]
    split
    · split
      · exact ih _ _
      · exact gives_readLongInteger _ _ _
    · exact gives_readAfterInteger _ _ _

/-- **Numbers.** A number that is read is as it is kept. -/
theorem gives_readNumber (isNegative : Bool) (c : Cursor) :
    Gives JsonNumber.IsCanonical (readNumber isNegative c) := by
  rw [readNumber]
  split
  · exact gives_fail _ _
  · extract_lets c
    split
    · exact gives_failNext _ _
    · exact gives_readAfterInteger _ _ _
  · split
    · exact gives_readInteger _ _ _ _
    · exact gives_fail _ _

/-! ### Values -/

/-- Elements that are read one after the other have a property that each of them has. -/
theorem gives_readElements {read : Cursor → Read Json} (hread : ∀ c, Gives q (read c))
    {soFar : List Json} (hsoFar : ∀ v ∈ soFar, q v) (c : Cursor) (fuel : Nat) :
    Gives (fun items ↦ ∀ v ∈ items, q v) (readElements read soFar c fuel) := by
  induction fuel generalizing soFar c with
  | zero => exact gives_fail _ _
  | succ fuel ih =>
    rw [readElements]
    split
    · exact gives_error _
    · exact gives_ok fun v hv ↦ hsoFar v (List.mem_reverse.mp hv)
    · split
      · exact gives_error _
      · next hitem => exact ih (List.forall_mem_cons.mpr ⟨hread _ _ _ hitem, hsoFar⟩) _

theorem forall_mem_insertMember {key : String} {value : Json} {members : List (String × Json)}
    (hvalue : q value) (hmembers : ∀ m ∈ members, q m.2) :
    ∀ m ∈ insertMember key value members, q m.2 := by
  induction members with
  | nil => simpa [insertMember] using hvalue
  | cons m rest ih =>
    obtain ⟨hm, hrest⟩ := List.forall_mem_cons.mp hmembers
    rw [insertMember]
    split
    · exact List.forall_mem_cons.mpr ⟨hvalue, hrest⟩
    · exact List.forall_mem_cons.mpr ⟨hm, ih hrest⟩

/-- Members that are read one after the other have a property that each of them has. -/
theorem gives_readMembers {read : Cursor → Read Json} (hread : ∀ c, Gives q (read c)) (first : Bool)
    {soFar : List (String × Json)} (hsoFar : ∀ m ∈ soFar, q m.2) (c : Cursor) (fuel : Nat) :
    Gives (fun members ↦ ∀ m ∈ members, q m.2) (readMembers read first soFar c fuel) := by
  induction fuel generalizing first soFar c with
  | zero => exact gives_fail _ _
  | succ fuel ih =>
    rw [readMembers]
    split
    · exact gives_error _
    · exact gives_ok hsoFar
    · split
      · exact gives_error _
      · split
        · exact gives_error _
        · split
          · exact gives_error _
          · next hvalue => exact ih _ (forall_mem_insertMember (hread _ _ _ hvalue) hsoFar) _

/-- What is read of a word is the value of the word. -/
theorem gives_readLetters {v : Json} (hv : v.IsCanonical) (letters : List Char) (c : Cursor) :
    Gives IsCanonical ((readLetters letters c).map fun c ↦ (v, c)) := by
  cases readLetters letters c with
  | error fault => exact gives_error _
  | ok c => exact gives_ok hv

/-- The numbers in a value that is read are as they are kept. -/
theorem gives_readValue (depth : Nat) (c : Cursor) : Gives IsCanonical (readValue depth c) := by
  have hnumber (isNegative : Bool) (c : Cursor) :
      Gives IsCanonical ((readNumber isNegative c).map fun r ↦ (.number r.1, r.2)) :=
    (gives_readNumber isNegative c).map fun n _ hn ↦ by rwa [IsCanonical]
  induction depth using Nat.strong_induction_on generalizing c with
  | _ depth ih =>
    rw [readValue.eq_def]
    dsimp only
    split
    · exact gives_fail _ _
    · exact gives_readLetters (by simp [IsCanonical]) _ _
    · exact gives_readLetters (by simp [IsCanonical]) _ _
    · exact gives_readLetters (by simp [IsCanonical]) _ _
    · exact hnumber _ _
    · cases readString c.skipBlanks.skip with
      | error fault => exact gives_error _
      | ok found => exact gives_ok (by simp [IsCanonical])
    · split
      · exact gives_failNext _ _
      · exact gives_failNext _ _
      · next depth _ =>
        have hitems := gives_readElements (fun c ↦ ih depth (Nat.lt_succ_self _) c)
          (List.forall_mem_nil _) c.skipBlanks.skip (c.skipBlanks.rest.length + 1)
        exact hitems.map fun items _ hall ↦ by simpa only [IsCanonical, allCanonical_iff] using hall
    · split
      · exact gives_failNext _ _
      · exact gives_failNext _ _
      · next depth _ =>
        have hmembers := gives_readMembers (fun c ↦ ih depth (Nat.lt_succ_self _) c) true
          (List.forall_mem_nil _) c.skipBlanks.skip (c.skipBlanks.rest.length + 1)
        exact hmembers.map fun members _ hall ↦ by
          simpa only [IsCanonical, membersCanonical_iff] using hall
    · split
      · exact hnumber _ _
      · exact gives_failNext _ _

/-- **Values.** The numbers in the value of a text are as they are kept. -/
theorem isCanonical_of_parse {text : String} {v : Json} (h : parse text = .ok v) :
    v.IsCanonical := by
  cases hread : readValue depthLimit (.ofText text) with
  | error fault =>
    rw [parse, hread] at h
    cases h
  | ok found =>
    rw [parse, hread] at h
    obtain rfl : found.1 = v := by
      change finish found = .ok v at h
      rw [finish] at h
      split at h
      · exact Except.ok.inj h
      · cases h
    exact gives_readValue _ _ found.1 found.2 hread

end Json

end PageRoutes
