import PageRoutes.Proofs.Disk.Reach
/-!
# Disks without cycles

A symbolic link can lead back to a directory that the link is in, or from which names lead to the
link. A disk on which this happens nowhere has no cycle: whatever names are entered one after the
other, they never lead from a directory back to it. How many links are crossed on the way does not
count here.

A trail of the type `Disk.Trail` may pass what is not on the disk. `Disk.HasTrail` says that it goes
down the disk from the root, and following moves from such a trail ends on one.

## Main definitions

* `Disk.HasTrail` : a trail goes down a disk from its root.
* `Disk.IsAcyclic` : no names lead from a directory back to it.

## Main results

* `Disk.hasTrail_of_reach` : what is reached from a trail of a disk is on a trail of the disk.
* `Disk.left_le_of_reach`, `Disk.left_lt_of_reach` : following moves gives no links back, and a link
  takes one away.
* `Disk.reach_add`, `Disk.eq_of_reach` : links that are left over do not change where moves lead.
* `Disk.left_lt_of_reach_names` : names that lead from a directory back to it cross a link.
* `Disk.isAcyclic_of_rank` : a disk has no cycle if names lead to lower ranks.
-/

namespace PageRoutes.Disk

/-- A trail that goes down a disk from its root and passes no link. -/
inductive HasTrail (disk : Disk) : Trail → Prop
  | root : HasTrail disk []
  | into {trail name entry} (above : HasTrail disk trail)
    (hchild : (disk.current trail).child? name = some entry)
    (hlink : ∀ target, entry ≠ .link target) : HasTrail disk ((name, entry) :: trail)

/-- No names lead from a directory back to it, however many links may be crossed on the way. -/
def IsAcyclic (disk : Disk) : Prop :=
  ∀ trail, disk.HasTrail trail → ∀ names ≠ [], ∀ links place,
    disk.reach (names.map .enter) (trail, links) = some place → place.1.names ≠ trail.names

/-! ### Trails of a disk -/

theorem Trail.names_cons (name : Octets) (entry : Entry) (trail : Trail) :
    Trail.names ((name, entry) :: trail) = trail.names ++ [name] := by
  simp [names]

section Trails

variable {disk : Disk} {trail : Trail} {links : Nat} {moves : List DiskPath.Step}

theorem HasTrail.drop_one (h : disk.HasTrail trail) : disk.HasTrail (trail.drop 1) := by
  cases h with
  | root => exact .root
  | into above => exact above

/-- On a proper disk the trails of the disk are sound. -/
theorem HasTrail.isSound (hd : disk.isProper) (h : disk.HasTrail trail) : trail.IsSound := by
  induction h with
  | root => exact nofun
  | @into trail name entry above hchild hlink ih =>
    obtain ⟨hname, hentry⟩ :=
      Entry.isProper_mem (isProper_current hd ih) (Entry.mem_of_child? hchild)
    refine List.forall_mem_cons.mpr ⟨⟨hname, hentry, ?_⟩, ih⟩
    cases entry with
    | file => exact .inr rfl
    | dir => exact .inl rfl
    | link target => exact absurd rfl (hlink target)

/-- What is reached from a trail of a disk is on a trail of the disk. -/
theorem hasTrail_of_reach {place : Trail × Nat} (htrail : disk.HasTrail trail)
    (h : disk.reach moves (trail, links) = some place) : disk.HasTrail place.1 := by
  simp only [reach, Place.found?] at h
  split at h
  · next next left hwalk =>
    obtain rfl := Option.some.inj h
    exact walk_induct (P := disk.HasTrail) .root (fun _ ↦ HasTrail.drop_one)
      (fun _ _ _ ↦ HasTrail.into) htrail hwalk
  · cases h

/-- A trail of a disk is determined by the names on it. -/
theorem HasTrail.eq_of_names {other : Trail} (h : disk.HasTrail trail)
    (hother : disk.HasTrail other)
    (hnames : trail.names = other.names) : trail = other := by
  rw [Trail.names, Trail.names, List.reverse_inj] at hnames
  induction h generalizing other with
  | root =>
    cases hother with
    | root => rfl
    | into => cases hnames
  | into _ hchild _ ih =>
    cases hother with
    | root => cases hnames
    | into above' hchild' _ =>
      obtain ⟨rfl, habove⟩ := List.cons.inj hnames
      obtain rfl := ih above' habove
      rw [Option.some.inj (hchild.symm.trans hchild')]

/-- What a path leads to is on a trail of the disk. -/
theorem hasTrail_of_find {workingDir p : DiskPath} {place : Trail × Nat}
    (h : disk.find workingDir p = .ok place) : disk.HasTrail place.1 := by
  rw [find, locate] at h
  split at h
  · cases h
  · exact hasTrail_of_reach .root (reach_eq_some_iff.mpr h)

end Trails

/-! ### Links that are left -/

section Links

variable {disk : Disk} {trail : Trail} {links : Nat}

/-- Following moves gives no links back. -/
theorem left_le_of_reach {moves : List DiskPath.Step} {place : Trail × Nat}
    (h : disk.reach moves (trail, links) = some place) : place.2 ≤ links := by
  induction links using Nat.strongRecOn generalizing moves trail with
  | ind links ihLinks =>
    induction moves generalizing trail with
    | nil =>
      rw [reach_nil, Option.some.injEq] at h
      exact h ▸ Nat.le_refl links
    | cons step rest ih =>
      have hdir : (disk.current trail).isDir := isDir_of_reach h
      cases step with
      | stay => exact ih (reach_stay hdir ▸ h)
      | up => exact ih (reach_up hdir ▸ h)
      | enter name =>
        cases hchild : (disk.current trail).child? name with
        | none =>
          rw [reach_free hchild] at h
          cases h
        | some e =>
          cases e with
          | file => exact ih (reach_enter hchild nofun ▸ h)
          | dir => exact ih (reach_enter hchild nofun ▸ h)
          | link target =>
            cases links with
            | zero =>
              rw [reach_link_zero hchild] at h
              cases h
            | succ links =>
              rw [reach_link_succ hchild] at h
              split at h
              · cases h
              · exact Nat.le_succ_of_le (ihLinks links (Nat.lt_succ_self links) h)

/-- A link takes one of the links that are left. -/
theorem left_lt_of_reach {name : Octets} {target : DiskPath} {place : Trail × Nat}
    (hchild : (disk.current trail).child? name = some (.link target))
    (h : disk.reach [.enter name] (trail, links) = some place) : place.2 < links := by
  cases links with
  | zero =>
    rw [reach_link_zero hchild] at h
    cases h
  | succ links =>
    rw [reach_link_succ hchild] at h
    split at h
    · cases h
    · exact Nat.lt_succ_of_le (left_le_of_reach h)

/-- A name leads to what is there under the name, or it takes a link. -/
theorem into_or_left_lt_of_reach {name : Octets} {place : Trail × Nat}
    (h : disk.reach [.enter name] (trail, links) = some place) :
    (∃ entry, (disk.current trail).child? name = some entry ∧
      place = ((name, entry) :: trail, links)) ∨ place.2 < links := by
  cases hchild : (disk.current trail).child? name with
  | none =>
    rw [reach_free hchild] at h
    cases h
  | some entry =>
    by_cases hlink : ∃ target, entry = .link target
    · obtain ⟨target, rfl⟩ := hlink
      exact .inr (left_lt_of_reach hchild h)
    · rw [reach_enter hchild (not_exists.mp hlink), reach_nil, Option.some.injEq] at h
      exact .inl ⟨entry, rfl, h.symm⟩

/-- With more links the same place is reached, and they are left there. -/
theorem reach_add {moves : List DiskPath.Step} {place : Trail × Nat}
    (h : disk.reach moves (trail, links) = some place) (extra : Nat) :
    disk.reach moves (trail, links + extra) = some (place.1, place.2 + extra) := by
  induction links using Nat.strongRecOn generalizing moves trail with
  | ind links ihLinks =>
    induction moves generalizing trail with
    | nil =>
      rw [reach_nil, Option.some.injEq] at h
      rw [reach_nil, ← h]
    | cons step rest ih =>
      have hdir : (disk.current trail).isDir := isDir_of_reach h
      cases step with
      | stay =>
        rw [reach_stay hdir] at h ⊢
        exact ih h
      | up =>
        rw [reach_up hdir] at h ⊢
        exact ih h
      | enter name =>
        cases hchild : (disk.current trail).child? name with
        | none =>
          rw [reach_free hchild] at h
          cases h
        | some e =>
          by_cases hlink : ∃ target, e = .link target
          · obtain ⟨target, rfl⟩ := hlink
            cases links with
            | zero =>
              rw [reach_link_zero hchild] at h
              cases h
            | succ links =>
              rw [Nat.add_right_comm, reach_link_succ hchild]
              rw [reach_link_succ hchild] at h
              split at h
              · cases h
              · next htarget =>
                rw [if_neg htarget]
                exact ihLinks links (Nat.lt_succ_self links) h
          · have hno := not_exists.mp hlink
            rw [reach_enter hchild hno] at h ⊢
            exact ih h

/-- How many links are left has no influence on where moves lead, if they lead somewhere. -/
theorem eq_of_reach {moves : List DiskPath.Step} {links' : Nat} {place other : Trail × Nat}
    (h : disk.reach moves (trail, links) = some place)
    (hother : disk.reach moves (trail, links') = some other) : place.1 = other.1 := by
  rcases Nat.le_total links links' with hle | hle
  · have hmore := reach_add h (links' - links)
    rw [Nat.add_sub_cancel' hle, hother, Option.some.injEq] at hmore
    rw [hmore]
  · have hmore := reach_add hother (links - links')
    rw [Nat.add_sub_cancel' hle, h, Option.some.injEq] at hmore
    rw [hmore]

/-- Names that cross no link lead as far down as there are names. -/
theorem length_names_of_reach {names : List Octets} {next : Trail}
    (h : disk.reach (names.map .enter) (trail, links) = some (next, links)) :
    next.names.length = trail.names.length + names.length := by
  induction names generalizing trail with
  | nil =>
    rw [List.map_nil, reach_nil, Option.some.injEq] at h
    rw [(Prod.mk.inj h).1, List.length_nil, Nat.add_zero]
  | cons name rest ih =>
    rw [List.map_cons, reach_cons] at h
    obtain ⟨⟨inner, left⟩, hfirst, hrest⟩ := Option.bind_eq_some_iff.mp h
    rcases into_or_left_lt_of_reach hfirst with ⟨entry, -, heq⟩ | hlt
    · obtain ⟨rfl, rfl⟩ := Prod.mk.inj heq
      rw [ih hrest, Trail.names_cons, List.length_append, List.length_singleton, List.length_cons,
        Nat.add_assoc, Nat.add_comm 1]
    · exact absurd hlt (Nat.not_lt.mpr (left_le_of_reach hrest))

/-- **Ways back.** Names that lead from a directory back to it cross a link on the way. -/
theorem left_lt_of_reach_names {names : List Octets} (hnames : names ≠ []) {left : Nat}
    (h : disk.reach (names.map .enter) (trail, links) = some (trail, left)) : left < links := by
  refine Nat.lt_of_le_of_ne (left_le_of_reach h) ?_
  rintro rfl
  have hlength := length_names_of_reach h
  have hpos := List.length_pos_iff.mpr hnames
  omega

end Links

/-! ### Ranks -/

/-- **Ranks.** A disk has no cycle if its directories and files have ranks such that what is in a
directory has a lower rank than the directory, and so has what a link in it leads to. -/
theorem isAcyclic_of_rank {disk : Disk} (rank : List Octets → Nat)
    (hinto : ∀ (trail : Trail) name entry, disk.HasTrail ((name, entry) :: trail) →
      rank (Trail.names ((name, entry) :: trail)) < rank trail.names)
    (hlink : ∀ (trail : Trail) name target links place, disk.HasTrail trail →
      (disk.current trail).child? name = some (.link target) →
      disk.reach [.enter name] (trail, links) = some place →
        rank place.1.names < rank trail.names) :
    disk.IsAcyclic := by
  have hstep {trail : Trail} {name : Octets} {links : Nat} {place : Trail × Nat}
      (htrail : disk.HasTrail trail) (h : disk.reach [.enter name] (trail, links) = some place) :
      rank place.1.names < rank trail.names := by
    cases hchild : (disk.current trail).child? name with
    | none =>
      rw [reach_free hchild] at h
      cases h
    | some entry =>
      by_cases hentry : ∃ target, entry = .link target
      · obtain ⟨target, rfl⟩ := hentry
        exact hlink trail name target links place htrail hchild h
      · have hno (target : DiskPath) : entry ≠ .link target := fun heq ↦ hentry ⟨target, heq⟩
        rw [reach_enter hchild hno, reach_nil, Option.some.injEq] at h
        exact h ▸ hinto trail name entry (.into htrail hchild hno)
  have hlower (names : List Octets) : names ≠ [] → ∀ trail, disk.HasTrail trail → ∀ links place,
      disk.reach (names.map .enter) (trail, links) = some place →
      rank place.1.names < rank trail.names := by
    induction names with
    | nil => exact fun hnil ↦ absurd rfl hnil
    | cons name rest ih =>
      intro _ trail htrail links place h
      rw [List.map_cons, reach_cons] at h
      obtain ⟨next, hnext, hrest⟩ := Option.bind_eq_some_iff.mp h
      by_cases hnil : rest = []
      · rw [hnil, List.map_nil, reach_nil, Option.some.injEq] at hrest
        exact hrest ▸ hstep htrail hnext
      · have hbelow := ih hnil next.1 (hasTrail_of_reach htrail hnext) next.2 place hrest
        exact Nat.lt_trans hbelow (hstep htrail hnext)
  intro trail htrail names hne links place h heq
  have hlt := hlower names hne trail htrail links place h
  rw [heq] at hlt
  exact Nat.lt_irrefl _ hlt

end PageRoutes.Disk
