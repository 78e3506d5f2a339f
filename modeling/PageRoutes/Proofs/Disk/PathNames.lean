import Mathlib.Data.List.TakeWhile
import PageRoutes.Proofs.Disk.Reach
/-!
# Paths of entries

The path of an entry is the path of its directory joined with its name. Where the name is a file
name this adds one component and one move, and a list of file names adds its names in their order.
So the path of a page file below a page directory tells the names that lead to it.

A file name has an extension where it is a stem, a dot and the extension. A path in its normal form
is made of the root and file names, and has itself as its normal form.

## Main definitions

* `DiskPath.below` : the path of what names lead to from a directory.

## Main results

* `DiskPath.splitExtension_eq_iff` : what stems and extensions are.
* `DiskPath.components_below` : its components are those of the directory, then the names.
* `DiskPath.below_injective` : different names give different paths.
* `DiskPath.absolutize_absolutize` : a normal form is its own.
-/

namespace PageRoutes.DiskPath

/-! ### Pieces -/

theorem pieces_ne_nil (cs : List Char) : pieces cs ≠ [] := by
  fun_cases pieces cs <;> simp

/-- A slash ends a piece. -/
theorem pieces_append_slash (a b : List Char) :
    pieces (a ++ '/' :: b) = pieces a ++ pieces b := by
  induction a with
  | nil => simp [pieces]
  | cons c rest ih =>
    rw [List.cons_append, pieces, pieces]
    split
    · rw [ih, List.cons_append]
    · rw [ih]
      obtain ⟨piece, more, h⟩ := List.exists_cons_of_ne_nil (pieces_ne_nil rest)
      simp [h]

/-- A text without slashes is one piece. -/
theorem pieces_of_not_mem {cs : List Char} (h : '/' ∉ cs) : pieces cs = [cs] := by
  induction cs with
  | nil => rfl
  | cons c rest ih =>
    simp only [List.mem_cons, not_or] at h
    rw [pieces, ih h.2]
    simp [Ne.symm h.1]

/-! ### The characters of a path -/

theorem exists_mem_pieces_iff {c : Char} (hslash : c ≠ '/') {cs : List Char} :
    (∃ piece ∈ pieces cs, c ∈ piece) ↔ c ∈ cs := by
  induction cs with
  | nil => simp [pieces]
  | cons d rest ih =>
    rw [pieces]
    split
    · next hd => simp [ih, hd, hslash]
    · obtain ⟨piece, more, h⟩ := List.exists_cons_of_ne_nil (pieces_ne_nil rest)
      simp only [h, List.exists_mem_cons_iff] at ih ⊢
      rw [List.mem_cons, List.mem_cons, or_assoc, ih]

theorem exists_mem_ofPiece_iff {c : Char} (hdot : c ≠ '.') {piece : List Char} :
    (∃ s, .name s ∈ ofPiece piece ∧ c ∈ s.toList) ↔ c ∈ piece := by
  rw [ofPiece]
  split
  · next h =>
    rcases Bool.or_eq_true_iff.mp h with h | h
    · simp [List.isEmpty_iff.mp h]
    · simp [beq_iff_eq.mp h, hdot]
  · split
    · next h => simp [beq_iff_eq.mp h, hdot]
    · simp

/-- A path has the characters of its names in it, apart from slashes and dots. -/
theorem mem_text_iff {c : Char} (hslash : c ≠ '/') (hdot : c ≠ '.') (p : DiskPath) :
    c ∈ p.text.toList ↔ ∃ s, .name s ∈ p.components ∧ c ∈ s.toList := by
  have hinner : c ∈ p.text.toList ↔
      ∃ s, .name s ∈ (pieces p.text.toList).flatMap ofPiece ∧ c ∈ s.toList := by
    rw [← exists_mem_pieces_iff hslash]
    constructor
    · rintro ⟨piece, hpiece, hc⟩
      obtain ⟨s, hs, hc⟩ := (exists_mem_ofPiece_iff hdot).mpr hc
      exact ⟨s, List.mem_flatMap.mpr ⟨piece, hpiece, hs⟩, hc⟩
    · rintro ⟨s, hs, hc⟩
      obtain ⟨piece, hpiece, hs⟩ := List.mem_flatMap.mp hs
      exact ⟨piece, hpiece, (exists_mem_ofPiece_iff hdot).mp ⟨s, hs, hc⟩⟩
  rw [hinner, components]
  split
  · simp
  · split <;> simp

/-- Paths that are equal up to their spelling have the same characters in them, apart from slashes
and dots. -/
theorem mem_text_iff_of_equiv {c : Char} (hslash : c ≠ '/') (hdot : c ≠ '.') {p q : DiskPath}
    (h : p.equiv q) : c ∈ p.text.toList ↔ c ∈ q.text.toList := by
  rw [mem_text_iff hslash hdot, mem_text_iff hslash hdot, beq_iff_eq.mp h]

/-! ### Extensions -/

/-- The characters before the first dot of a text are those in front of a dot that has none before
it. -/
private theorem cut_iff {cs before after : List Char} :
    cs.takeWhile (· ≠ '.') = before ∧ cs.dropWhile (· ≠ '.') = '.' :: after ↔
      cs = before ++ '.' :: after ∧ '.' ∉ before := by
  constructor
  · rintro ⟨rfl, hdrop⟩
    refine ⟨?_, fun hmem ↦ by simpa using List.mem_takeWhile_imp hmem⟩
    rw [← hdrop, List.takeWhile_append_dropWhile]
  · rintro ⟨rfl, hdot⟩
    have hne : ∀ c ∈ before, (c ≠ '.' : Bool) := fun c hc ↦ by
      simpa using fun (h : c = '.') ↦ hdot (h ▸ hc)
    rw [List.takeWhile_append_of_pos hne, List.dropWhile_append_of_pos hne]
    simp

/-- A name is cut into a stem and an extension at its last dot, unless nothing stands before it. -/
theorem splitExtension_eq_iff {name stem ext : String} (hext : ext ≠ "") :
    splitExtension name = (stem, some ext) ↔
      name = stem ++ "." ++ ext ∧ stem ≠ "" ∧ '.' ∉ ext.toList := by
  constructor
  · intro h
    simp only [splitExtension] at h
    split at h
    · next dot before hdrop =>
      have hdot : dot = '.' := by
        have hhead := List.head?_dropWhile_not (· ≠ '.') name.toList.reverse
        rw [hdrop] at hhead
        simpa using hhead
      split at h
      · simp at h
      · next hbefore =>
        simp only [Prod.mk.injEq, Option.some.injEq] at h
        obtain ⟨rfl, rfl⟩ := h
        obtain ⟨hname, hnone⟩ := cut_iff.mp ⟨rfl, hdot ▸ hdrop⟩
        refine ⟨?_, ?_, by simpa using hnone⟩
        · rw [← String.toList_inj]
          simpa using congrArg List.reverse hname
        · simp only [Bool.or_eq_true, List.isEmpty_iff, not_or] at hbefore
          simp [String.ofList_eq_empty_iff, hbefore.1]
    · simp at h
  · rintro ⟨rfl, hstem, hdot⟩
    have hreverse : (stem ++ "." ++ ext).toList.reverse =
        ext.toList.reverse ++ '.' :: stem.toList.reverse := by
      simp
    obtain ⟨htake, hdrop⟩ := cut_iff.mpr ⟨hreverse, by simpa using hdot⟩
    have hdots : stem ++ "." ++ ext ≠ ".." := by
      intro h
      have hlength := congrArg (fun s : String ↦ s.toList.length) h
      have hs : 0 < stem.toList.length := List.length_pos_iff.mpr (by simpa using hstem)
      have he : 0 < ext.toList.length := List.length_pos_iff.mpr (by simpa using hext)
      simp only [String.toList_append, List.length_append] at hlength
      change _ + 1 + _ = 2 at hlength
      omega
    simp only [splitExtension, htake, hdrop]
    simp [hstem, hdots]

/-! ### Joining a file name -/

/-- The condition on a text to be a file name, about its characters. -/
theorem isFileName_text_iff {s : String} :
    (Octets.text s).isFileName ↔ s ≠ "" ∧ s ≠ "." ∧ s ≠ ".." ∧ '/' ∉ s.toList := by
  simp [Octets.isFileName, and_assoc]

/-- A file name as a piece of a path stands for itself. -/
theorem ofPiece_of_isFileName {s : String} (h : (Octets.text s).isFileName) :
    ofPiece s.toList = [.name s] := by
  obtain ⟨hempty, hdot, hdots, -⟩ := isFileName_text_iff.mp h
  have hne (t : String) (ht : s ≠ t) : s.toList ≠ t.toList :=
    fun heq ↦ ht (String.toList_inj.mp heq)
  have h0 := hne "" hempty
  have h1 := hne "." hdot
  have h2 := hne ".." hdots
  simp only [String.toList_empty] at h0
  have h1' : s.toList ≠ ['.'] := h1
  have h2' : s.toList ≠ ['.', '.'] := h2
  simp [ofPiece, h0, h1', h2']

/-- A joined path is text with the name of the entry as its last piece. The text before it has the
same pieces as the path of the directory, up to an empty one at the end. -/
private theorem exists_front {p : DiskPath} (hp : p.text ≠ "") {s : String}
    (hs : (Octets.text s).isFileName) :
    ∃ front, (p.join ⟨s⟩).text.toList = front ++ '/' :: s.toList ∧
      (p.text.toList = front ∨ p.text.toList = front ++ ['/']) := by
  obtain ⟨-, -, -, hslash⟩ := isFileName_text_iff.mp hs
  have habs : (DiskPath.mk s).isAbsolute = false := by
    simp only [isAbsolute, beq_eq_false_iff_ne]
    exact fun h ↦ hslash (List.mem_of_head? h)
  simp only [join, habs, Bool.false_or, String.isEmpty_iff, hp, ↓reduceIte]
  split
  · next hlast =>
    obtain ⟨front, hfront⟩ := List.getLast?_eq_some_iff.mp (beq_iff_eq.mp hlast)
    exact ⟨front, by simp [hfront], .inr hfront⟩
  · exact ⟨p.text.toList, by simp, .inl rfl⟩

/-- **Joining a file name.** The path of an entry has the components of its directory's path and the
name of the entry. -/
theorem components_join {p : DiskPath} (hp : p.text ≠ "") {s : String}
    (hs : (Octets.text s).isFileName) :
    (p.join ⟨s⟩).components = p.components ++ [.name s] := by
  obtain ⟨front, hjoin, hfront⟩ := exists_front hp hs
  have hpieces : pieces (p.join ⟨s⟩).text.toList = pieces front ++ [s.toList] := by
    rw [hjoin, pieces_append_slash, pieces_of_not_mem (isFileName_text_iff.mp hs).2.2.2]
  have hhead : (pieces p.text.toList).head? = (pieces front).head? ∧
      (pieces p.text.toList).flatMap ofPiece = (pieces front).flatMap ofPiece := by
    rcases hfront with h | h
    · simp [h]
    · rw [h, pieces_append_slash]
      obtain ⟨piece, more, hcons⟩ := List.exists_cons_of_ne_nil (pieces_ne_nil front)
      simp [hcons, pieces, ofPiece]
  have habs : (p.join ⟨s⟩).isAbsolute = p.isAbsolute := by
    have hne : p.text.toList ≠ [] := by simpa using hp
    rcases hfront with h | h
    · obtain ⟨c, rest, hcons⟩ := List.exists_cons_of_ne_nil (h ▸ hne)
      simp [isAbsolute, hjoin, h, hcons]
    · cases front <;> simp [isAbsolute, hjoin, h]
  obtain ⟨piece, more, hcons⟩ := List.exists_cons_of_ne_nil (pieces_ne_nil front)
  simp only [components, habs, hpieces, hhead, List.flatMap_append, List.flatMap_cons,
    List.flatMap_nil, ofPiece_of_isFileName hs, hcons, List.cons_append, List.head?_cons,
    List.append_nil]
  split
  · simp
  · split <;> simp

theorem join_text_ne_empty {p : DiskPath} (hp : p.text ≠ "") {s : String}
    (hs : (Octets.text s).isFileName) : (p.join ⟨s⟩).text ≠ "" := by
  obtain ⟨front, hjoin, -⟩ := exists_front hp hs
  intro hempty
  simp [hempty] at hjoin

/-! ### Names below a directory -/

/-- The path of what names lead to from a directory. -/
def below (p : DiskPath) (names : List String) : DiskPath :=
  names.foldl (fun q s ↦ q.join ⟨s⟩) p

@[simp] theorem below_nil (p : DiskPath) : p.below [] = p := rfl

@[simp] theorem below_cons (p : DiskPath) (s : String) (names : List String) :
    p.below (s :: names) = (p.join ⟨s⟩).below names := rfl

theorem below_append (p : DiskPath) (names more : List String) :
    p.below (names ++ more) = (p.below names).below more := by
  simp [below]

/-- The components of a path below a directory are those of the directory, then the names. -/
theorem components_below {p : DiskPath} (hp : p.text ≠ "") {names : List String}
    (hnames : ∀ s ∈ names, (Octets.text s).isFileName) :
    (p.below names).components = p.components ++ names.map .name := by
  induction names generalizing p with
  | nil => simp
  | cons s names ih =>
    obtain ⟨hs, hrest⟩ := List.forall_mem_cons.mp hnames
    rw [below_cons, ih (join_text_ne_empty hp hs) hrest, components_join hp hs]
    simp

/-- **Names from a path.** Different lists of file names lead to different paths, also when the
paths are compared by their components. -/
theorem below_injective {p : DiskPath} (hp : p.text ≠ "") {names more : List String}
    (hnames : ∀ s ∈ names, (Octets.text s).isFileName)
    (hmore : ∀ s ∈ more, (Octets.text s).isFileName)
    (h : (p.below names).components = (p.below more).components) : names = more := by
  rw [components_below hp hnames, components_below hp hmore, List.append_cancel_left_eq] at h
  exact List.map_injective_iff.mpr (fun _ _ ↦ Component.name.inj) h

/-! ### Normal forms -/

/-- A piece of a text has no slash in it. -/
theorem not_mem_of_mem_pieces {cs piece : List Char} (h : piece ∈ pieces cs) : '/' ∉ piece := by
  induction cs generalizing piece with
  | nil =>
    rw [List.mem_singleton.mp h]
    exact List.not_mem_nil
  | cons c rest ih =>
    rw [pieces] at h
    split at h
    · rcases List.mem_cons.mp h with rfl | h
      · exact List.not_mem_nil
      · exact ih h
    · next hc =>
      split at h
      · rw [List.mem_singleton.mp h]
        simpa using Ne.symm hc
      · next first more hrest =>
        rcases List.mem_cons.mp h with rfl | h
        · have hfirst : '/' ∉ first := ih (hrest ▸ List.mem_cons_self)
          simpa [hfirst] using Ne.symm hc
        · exact ih (hrest ▸ List.mem_cons_of_mem _ h)

/-- A piece of a text that is neither empty nor made of one or two dots is a file name. -/
theorem isFileName_of_mem_pieces {cs piece : List Char} (h : piece ∈ pieces cs)
    (hempty : ¬(piece.isEmpty || piece == ['.'])) (hdots : ¬piece == ['.', '.']) :
    (Octets.text (String.ofList piece)).isFileName := by
  simp only [Bool.or_eq_true, List.isEmpty_iff, beq_iff_eq, not_or] at hempty hdots
  have hne (s : String) (hs : piece ≠ s.toList) : String.ofList piece ≠ s := by
    rintro rfl
    exact hs (by simp)
  rw [isFileName_text_iff]
  exact ⟨hne "" (by simpa using hempty.1), hne "." (by simpa using hempty.2),
    hne ".." (by simpa using hdots), by simpa using not_mem_of_mem_pieces h⟩

/-- The names in a path are file names. -/
theorem isFileName_of_mem_components {p : DiskPath} {s : String} (h : .name s ∈ p.components) :
    (Octets.text s).isFileName := by
  have hinner : .name s ∈ (pieces p.text.toList).flatMap ofPiece := by
    rw [components] at h
    split at h
    · simpa using h
    · split at h
      · simpa using h
      · exact h
  obtain ⟨piece, hpiece, hs⟩ := List.mem_flatMap.mp hinner
  rw [ofPiece] at hs
  split at hs
  · cases hs
  · next hempty =>
    split at hs
    · simp at hs
    · next hdots =>
      obtain rfl : s = String.ofList piece := by simpa using hs
      exact isFileName_of_mem_pieces hpiece hempty hdots

/-- Resolving components leaves names that were on the stack or are among the components. -/
theorem mem_of_mem_resolve {s : String} {components : List Component} {stack : List String}
    (h : s ∈ resolve stack components) : s ∈ stack ∨ .name s ∈ components := by
  induction components generalizing stack with
  | nil => exact .inl h
  | cons c rest ih =>
    cases c with
    | root =>
      rcases ih h with h | h
      · cases h
      · exact .inr (List.mem_cons_of_mem _ h)
    | here =>
      rcases ih h with h | h
      · exact .inl h
      · exact .inr (List.mem_cons_of_mem _ h)
    | up =>
      rcases ih h with h | h
      · exact .inl (List.mem_of_mem_drop h)
      · exact .inr (List.mem_cons_of_mem _ h)
    | name t =>
      rcases ih h with h | h
      · rcases List.mem_cons.mp h with rfl | h
        · exact .inr List.mem_cons_self
        · exact .inl h
      · exact .inr (List.mem_cons_of_mem _ h)

theorem resolve_append (stack : List String) (a b : List Component) :
    resolve stack (a ++ b) = resolve (resolve stack a) b := by
  induction a generalizing stack with
  | nil => rfl
  | cons c rest ih => cases c <;> simp [resolve, ih]

theorem resolve_names (stack names : List String) :
    resolve stack (names.map .name) = names.reverse ++ stack := by
  induction names generalizing stack with
  | nil => rfl
  | cons s rest ih => simp [resolve, ih]

theorem pieces_intercalate {s : String} {names : List String}
    (hnames : ∀ t ∈ s :: names, '/' ∉ t.toList) :
    pieces (String.intercalate "/" (s :: names)).toList = (s :: names).map String.toList := by
  induction names generalizing s with
  | nil => simpa using pieces_of_not_mem (hnames s List.mem_cons_self)
  | cons t rest ih =>
    obtain ⟨hs, hrest⟩ := List.forall_mem_cons.mp hnames
    have htext : (String.intercalate "/" (s :: t :: rest)).toList =
        s.toList ++ '/' :: (String.intercalate "/" (t :: rest)).toList := by
      rw [String.intercalate_cons_cons]
      simp
    rw [htext, pieces_append_slash, pieces_of_not_mem hs, ih hrest]
    rfl

/-- The path with the given names from the root on is made of the root and these names. -/
theorem components_ofNames {names : List String}
    (hnames : ∀ s ∈ names, (Octets.text s).isFileName) :
    (ofNames names).components = .root :: names.map .name := by
  cases names with
  | nil => decide
  | cons s rest =>
    have hpieces : pieces (ofNames (s :: rest)).text.toList =
        [] :: (s :: rest).map String.toList := by
      rw [← pieces_intercalate fun t ht ↦ (isFileName_text_iff.mp (hnames t ht)).2.2.2]
      simp [ofNames, pieces]
    have habs : (ofNames (s :: rest)).isAbsolute = true := by simp [ofNames, isAbsolute]
    have hinner : ((s :: rest).map String.toList).flatMap ofPiece = (s :: rest).map .name := by
      rw [List.flatMap_map, ← List.flatMap_singleton' ((s :: rest).map Component.name),
        List.flatMap_map]
      exact List.flatMap_congr fun t ht ↦ ofPiece_of_isFileName (hnames t ht)
    rw [components, if_pos habs, hpieces, List.flatMap_cons, hinner]
    rfl

/-- A normal form is made of the root and file names. -/
theorem exists_names_of_absolutize (workingDir p : DiskPath) :
    ∃ names, absolutize workingDir p = ofNames names ∧
      (absolutize workingDir p).components = .root :: names.map .name := by
  refine ⟨_, rfl, components_ofNames fun s hs ↦ ?_⟩
  rcases mem_of_mem_resolve (List.mem_reverse.mp hs) with h | h
  · cases h
  · rcases List.mem_append.mp h with h | h <;> exact isFileName_of_mem_components h

/-- A normal form stays what it is, seen from any directory. -/
theorem absolutize_absolutize (workingDir dir p : DiskPath) :
    absolutize workingDir (absolutize dir p) = absolutize dir p := by
  obtain ⟨names, hnames, hcomponents⟩ := exists_names_of_absolutize dir p
  rw [absolutize, hcomponents, resolve_append, resolve, resolve_names, hnames]
  simp

/-- A path with nothing behind it names what the path names. -/
theorem components_join_empty (p : DiskPath) : (p.join ⟨""⟩).components = p.components := by
  by_cases hp : p.text = ""
  · simp [join, hp, components, isAbsolute]
  · rw [join]
    have habs : (DiskPath.mk "").isAbsolute = false := by decide
    simp only [habs, Bool.false_or, String.isEmpty_iff, hp, ↓reduceIte]
    split
    · simp
    · obtain ⟨c, rest, hcons⟩ := List.exists_cons_of_ne_nil (l := p.text.toList) (by simpa using hp)
      obtain ⟨piece, more, hpieces⟩ := List.exists_cons_of_ne_nil (pieces_ne_nil p.text.toList)
      have hslash : pieces (p.text ++ "/" ++ "").toList = pieces p.text.toList ++ [[]] := by
        have := pieces_append_slash p.text.toList []
        simpa [pieces] using this
      have hroot : (DiskPath.mk (p.text ++ "/" ++ "")).isAbsolute = p.isAbsolute := by
        simp [isAbsolute, hcons]
      simp only [components, hroot, hslash, List.flatMap_append, hpieces]
      simp [ofPiece]

/-- A normal form with nothing behind it has itself as its normal form. -/
theorem absolutize_join_empty (workingDir dir p : DiskPath) :
    absolutize workingDir ((absolutize dir p).join ⟨""⟩) = absolutize dir p := by
  rw [absolutize, components_join_empty, ← absolutize, absolutize_absolutize]

end PageRoutes.DiskPath
