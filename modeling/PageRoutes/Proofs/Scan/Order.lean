import PageRoutes.Proofs.Scan.Find
/-!
# The order of a scan

A scan takes the entries of a directory in the order of the bytes of their names. It goes into a
folder when it comes upon it, and looks at the metadata of the folder after that. A position in a
scan is the list of the names that lead to an entry, so positions come in lexicographic order,
except that a position comes after those inside it.

## Main definitions

* `Octets.Before` : the strict order of names by their bytes.
* `Scan.Precedes` : the order in which a scan comes to positions.

## Main results

* `Scan.pairwise_sortByName` : entries ordered by name, when no two have the same name.
* `Scan.Precedes.asymm` : no position comes both before and after another one.
-/

namespace PageRoutes

namespace Octets

/-- Whether the bytes of a name come before those of another one. -/
def Before (a b : Octets) : Prop := a.toBytes.data.toList < b.toBytes.data.toList

/-- Byte strings with the same bytes are the same, since text is never kept as bare bytes. -/
theorem toBytes_injective {a b : Octets} (h : a.toBytes = b.toBytes) : a = b := by
  have hne (s : String) (bytes : ByteArray) (hbytes : String.fromUTF8? bytes = none) :
      s.toByteArray ≠ bytes := by
    rintro rfl
    simp [String.fromUTF8?, s.isValidUTF8] at hbytes
  cases a with
  | text s =>
    cases b with
    | text t => exact congrArg text (String.toByteArray_inj.mp h)
    | raw bytes hbytes => exact absurd h (hne s bytes hbytes)
  | raw bytes hbytes =>
    cases b with
    | text t => exact absurd h.symm (hne t bytes hbytes)
    | raw more hmore =>
      obtain rfl : bytes = more := h
      rfl

theorem leBytes_iff (xs ys : List UInt8) : le.leBytes xs ys ↔ xs ≤ ys := by
  fun_induction le.leBytes xs ys with
  | case1 ys => simp
  | case2 x xs => simp
  | case3 x xs y ys ih => simp [List.cons_le_cons_iff, ih]

/-- One name comes before another where the other is not taken first. -/
theorem before_iff_not_le {a b : Octets} : a.Before b ↔ ¬b.le a := by
  rw [Before, le, leBytes_iff, List.not_le]

theorem before_of_le {a b : Octets} (h : a.le b) (hne : a ≠ b) : a.Before b := by
  rw [before_iff_not_le]
  intro hba
  rw [le, leBytes_iff] at h hba
  have hlist := List.le_antisymm h hba
  exact hne (toBytes_injective (ByteArray.ext (Array.toList_inj.mp hlist)))

theorem Before.trans {a b c : Octets} (hab : a.Before b) (hbc : b.Before c) : a.Before c :=
  List.lt_trans hab hbc

theorem Before.asymm {a b : Octets} (h : a.Before b) : ¬b.Before a := List.lt_asymm h

theorem Before.irrefl (a : Octets) : ¬a.Before a := List.lt_irrefl _

end Octets

namespace Scan

/-! ### Entries in order -/

section Sorting

variable {α : Type} {item : Octets × α} {items : List (Octets × α)}

theorem pairwise_insertByName (h : items.Pairwise fun a b ↦ a.1.Before b.1)
    (hitem : ∀ r ∈ items, item.1 ≠ r.1) :
    (insertByName item items).Pairwise fun a b ↦ a.1.Before b.1 := by
  induction items with
  | nil => exact List.pairwise_singleton ..
  | cons first rest ih =>
    obtain ⟨hfirst, hrest⟩ := List.pairwise_cons.mp h
    obtain ⟨hne, hnone⟩ := List.forall_mem_cons.mp hitem
    rw [insertByName]
    split
    · next hle =>
      have hbefore : item.1.Before first.1 := Octets.before_of_le hle hne
      refine List.pairwise_cons.mpr ⟨?_, h⟩
      exact List.forall_mem_cons.mpr ⟨hbefore, fun r hr ↦ hbefore.trans (hfirst r hr)⟩
    · next hle =>
      refine List.pairwise_cons.mpr ⟨fun r hr ↦ ?_, ih hrest hnone⟩
      rcases mem_insertByName.mp hr with rfl | hr
      · exact Octets.before_iff_not_le.mpr hle
      · exact hfirst r hr

/-- Ordered by name, entries with different names come one before the other. -/
theorem pairwise_sortByName (h : (items.map Prod.fst).Nodup) :
    (sortByName items).Pairwise fun a b ↦ a.1.Before b.1 := by
  induction items with
  | nil => exact .nil
  | cons item rest ih =>
    obtain ⟨hitem, hrest⟩ := List.nodup_cons.mp h
    refine pairwise_insertByName (ih hrest) fun r hr heq ↦ hitem ?_
    rw [heq]
    exact List.mem_map_of_mem (mem_sortByName.mp hr)

end Sorting

/-! ### Positions in order -/

/-- The order in which a scan comes to positions: names by their bytes, and a position after those
inside it. -/
inductive Precedes : List Octets → List Octets → Prop
  | inside (name : Octets) (rest : List Octets) : Precedes (name :: rest) []
  | names {a b : Octets} (h : a.Before b) (p q : List Octets) : Precedes (a :: p) (b :: q)
  | under {p q : List Octets} (name : Octets) (h : Precedes p q) : Precedes (name :: p) (name :: q)

theorem Precedes.asymm {p q : List Octets} (h : Precedes p q) : ¬Precedes q p := by
  induction h with
  | inside => nofun
  | names hab =>
    intro h
    cases h with
    | names hba => exact hab.asymm hba
    | under => exact Octets.Before.irrefl _ hab
  | under name _ ih =>
    intro h
    cases h with
    | names hself => exact Octets.Before.irrefl _ hself
    | under _ h => exact ih h

end Scan

end PageRoutes
