import PageRoutes.Proofs.Disk.PathNames
/-!
# Disks that are changed

Every change of a proper disk gives a proper disk: writing a file, putting an entry somewhere with
the directories on the way, and removing one. The names under which entries are put come from paths
or from the disk itself, and they are never put beside an entry of the same name.

## Main definitions

* `DiskPath.NamesFiles` : moves that enter file names only, as those of any path do.

## Main results

* `Disk.isProper_set` : an entry set or removed at file names.
* `Disk.place_of_openFile` : where a file is opened.
* `Disk.isProper_write`, `Disk.isProper_plant`, `Disk.isProper_remove` : the changes of a disk.
-/

namespace PageRoutes

/-! ### Moves of paths -/

/-- Moves that enter nothing but file names. -/
def DiskPath.NamesFiles (moves : List Step) : Prop := ∀ name, .enter name ∈ moves → name.isFileName

/-- Following a path enters nothing but file names. -/
theorem DiskPath.namesFiles_steps (p : DiskPath) : NamesFiles p.steps := by
  intro name hname
  obtain ⟨piece, hpiece, hstep⟩ := List.mem_map.mp hname
  split at hstep
  · cases hstep
  · next hempty =>
    split at hstep
    · cases hstep
    · next hdots =>
      obtain rfl := Step.enter.inj hstep
      exact isFileName_of_mem_pieces hpiece hempty hdots

theorem DiskPath.NamesFiles.append {moves more : List Step} (h : NamesFiles moves)
    (hmore : NamesFiles more) : NamesFiles (moves ++ more) := fun name hname ↦
  (List.mem_append.mp hname).elim (h name) (hmore name)

theorem DiskPath.NamesFiles.subset {moves more : List Step} (h : NamesFiles moves)
    (hsub : more ⊆ moves) : NamesFiles more := fun name hname ↦ h name (hsub hname)

namespace Disk

theorem namesFiles_stepsFrom (workingDir p : DiskPath) :
    DiskPath.NamesFiles (stepsFrom workingDir p) := by
  rw [stepsFrom]
  split
  · exact p.namesFiles_steps
  · exact workingDir.namesFiles_steps.append p.namesFiles_steps

/-! ### Entries set or removed -/

section Entries

variable {name : Octets} {new : Option Entry} {entries : List (Octets × Entry)}

/-- Setting a name leaves no entry but the new one and those that were there. -/
theorem mem_of_mem_setName {r : Octets × Entry} (h : r ∈ setName name new entries) :
    (r.1 = name ∧ new = some r.2) ∨ r ∈ entries := by
  have hown (hr : r ∈ (new.map fun e ↦ (name, e)).toList) : r.1 = name ∧ new = some r.2 := by
    rw [Option.mem_toList, Option.map_eq_some_iff] at hr
    obtain ⟨e, rfl, rfl⟩ := hr
    exact ⟨rfl, rfl⟩
  induction entries with
  | nil => exact .inl (hown h)
  | cons first rest ih =>
    rw [setName] at h
    split at h
    · rcases List.mem_append.mp h with h | h
      · exact .inl (hown h)
      · exact .inr (List.mem_cons_of_mem _ h)
    · rcases List.mem_cons.mp h with rfl | h
      · exact .inr List.mem_cons_self
      · exact (ih h).imp_right (List.mem_cons_of_mem _)

theorem nodup_setName (h : (entries.map Prod.fst).Nodup) :
    ((setName name new entries).map Prod.fst).Nodup := by
  induction entries with
  | nil => cases new <;> simp [setName]
  | cons first rest ih =>
    rw [List.map_cons, List.nodup_cons] at h
    rw [setName]
    split
    · next hname =>
      subst hname
      cases new with
      | none => exact h.2
      | some e => exact List.nodup_cons.mpr h
    · next hname =>
      rw [List.map_cons, List.nodup_cons]
      refine ⟨fun hmem ↦ ?_, ih h.2⟩
      obtain ⟨r, hr, hfirst⟩ := List.mem_map.mp hmem
      rcases mem_of_mem_setName hr with ⟨hown, -⟩ | hr
      · exact hname (hfirst.symm.trans hown)
      · exact h.1 (hfirst ▸ List.mem_map_of_mem hr)

/-- A proper directory in which a file name is set to something proper, or removed, is proper. -/
theorem isProper_setName (h : (Entry.dir entries).isProper) (hname : name.isFileName)
    (hnew : ∀ e ∈ new, e.isProper) : (Entry.dir (setName name new entries)).isProper := by
  rw [Entry.isProper, Bool.and_eq_true, decide_eq_true_iff, Entry.allProper_iff]
  refine ⟨nodup_setName (Entry.nodup_of_isProper h), fun r hr ↦ ?_⟩
  rcases mem_of_mem_setName hr with ⟨rfl, hown⟩ | hr
  · exact ⟨hname, hnew r.2 hown⟩
  · exact Entry.isProper_mem h hr

/-- The entries of something proper make a proper directory. -/
theorem isProper_dir_entries {e : Entry} (h : e.isProper) : (Entry.dir e.entries).isProper := by
  cases e with
  | dir entries => exact h
  | file => rfl
  | link => rfl

theorem isProper_setAt {names : List Octets} (h : (Entry.dir entries).isProper)
    (hnames : ∀ n ∈ names, n.isFileName) (hnew : ∀ e ∈ new, e.isProper) :
    (Entry.dir (setAt new names entries)).isProper := by
  fun_induction setAt new names entries with
  | case1 => exact h
  | case2 name entries => exact isProper_setName h (hnames name List.mem_cons_self) hnew
  | case3 name rest entries hrest inner ih =>
    obtain ⟨hname, hnames⟩ := List.forall_mem_cons.mp hnames
    have hinner : (Entry.dir inner).isProper := by
      change (Entry.dir (Option.getD _ _)).isProper
      cases hfind : entries.find? fun r ↦ r.1 = name with
      | none => rfl
      | some r =>
        have hr := List.mem_of_find?_eq_some hfind
        exact isProper_dir_entries (Entry.isProper_mem h hr).2
    refine isProper_setName h hname fun e he ↦ ?_
    rw [← Option.some.inj he]
    exact ih hinner hnames

end Entries

variable {disk : Disk}

/-- **Setting an entry.** A proper disk in which something proper is put at file names, or an entry
is removed there, is proper. -/
theorem isProper_set (hd : disk.isProper) {names : List Octets} {new : Option Entry}
    (hnames : ∀ n ∈ names, n.isFileName) (hnew : ∀ e ∈ new, e.isProper) :
    (disk.set names new).isProper :=
  isProper_setAt hd hnames hnew

/-! ### Changes at the end of a walk -/

/-- The free name at which a walk along file names has ended is a file name. -/
theorem isFileName_of_vacant {links : Nat} {moves : List DiskPath.Step} {trail parent : Trail}
    {name : Octets} (hmoves : DiskPath.NamesFiles moves)
    (h : disk.walk links moves trail = .ok (.vacant parent name)) : name.isFileName := by
  induction links using Nat.strongRecOn generalizing moves trail with
  | ind links ihLinks =>
    induction moves generalizing trail with
    | nil => simp at h
    | cons step rest ih =>
      have hrest : DiskPath.NamesFiles rest := hmoves.subset (List.subset_cons_self _ _)
      cases hdir : (disk.current trail).isDir with
      | false => simp [walk_of_not_isDir hdir] at h
      | true =>
        cases step with
        | stay => exact ih hrest (walk_stay hdir ▸ h)
        | up => exact ih hrest (walk_up hdir ▸ h)
        | enter entered =>
          cases hchild : (disk.current trail).child? entered with
          | none =>
            rw [walk_free hdir hchild] at h
            split at h
            · obtain ⟨-, rfl⟩ := Place.vacant.inj (Except.ok.inj h)
              exact hmoves entered List.mem_cons_self
            · cases h
          | some e =>
            cases e with
            | file => exact ih hrest (walk_enter hchild nofun ▸ h)
            | dir => exact ih hrest (walk_enter hchild nofun ▸ h)
            | link target =>
              cases links with
              | zero => simp [walk_link_zero hchild] at h
              | succ links =>
                rw [walk_link_succ hchild] at h
                split at h
                · cases h
                · exact ihLinks links (Nat.lt_succ_self links)
                    (target.namesFiles_steps.append hrest) h

section Names

variable {links left : Nat} {moves : List DiskPath.Step} {trail parent : Trail} {name : Octets}

/-- The names on the trail on which a walk from the root ends on a proper disk are file names. -/
theorem isFileName_of_mem_names (hd : disk.isProper) {place : Place}
    (h : disk.walk links moves [] = .ok place) : ∀ n ∈ place.trail.names, n.isFileName := by
  have hroot : Trail.IsSound [] := nofun
  intro n hn
  obtain ⟨r, hr, rfl⟩ := List.mem_map.mp (List.mem_reverse.mp hn)
  exact (isSound_of_walk hd hroot h r hr).1

/-- A proper disk in which something proper is put where a walk from the root has found something,
or in which that is removed, is proper. -/
theorem isProper_set_found (hd : disk.isProper) {new : Option Entry} (hnew : ∀ e ∈ new, e.isProper)
    (h : disk.walk links moves [] = .ok (.found trail left)) :
    (disk.set trail.names new).isProper :=
  isProper_set hd (isFileName_of_mem_names hd h) hnew

/-- A proper disk in which something proper is put under a file name in a directory at the end of a
walk from the root is proper. -/
theorem isProper_set_snoc (hd : disk.isProper) {new : Option Entry} (hnew : ∀ e ∈ new, e.isProper)
    {place : Place} (h : disk.walk links moves [] = .ok place) (hname : name.isFileName) :
    (disk.set (place.trail.names ++ [name]) new).isProper := by
  refine isProper_set hd (fun n hn ↦ ?_) hnew
  rcases List.mem_append.mp hn with hn | hn
  · exact isFileName_of_mem_names hd h n hn
  · rwa [List.mem_singleton.mp hn]

/-- A proper disk in which something proper is put at a free name at the end of a walk along file
names is proper. -/
theorem isProper_set_vacant (hd : disk.isProper) {new : Option Entry} (hnew : ∀ e ∈ new, e.isProper)
    (hmoves : DiskPath.NamesFiles moves)
    (h : disk.walk links moves [] = .ok (.vacant parent name)) :
    (disk.set (parent.names ++ [name]) new).isProper :=
  isProper_set_snoc hd hnew h (isFileName_of_vacant hmoves h)

end Names

/-- A file was opened at the place to which its path leads. There was no directory, and there is an
empty file now. -/
theorem place_of_openFile {workingDir p : DiskPath} {names : List Octets} {opened : Disk}
    (h : disk.openFile workingDir p = .ok (names, opened)) :
    ∃ place, disk.locate workingDir p = .ok place ∧ names = place.names ∧
      opened = disk.set names (some (.file (.text ""))) ∧
      ∀ trail left, place = .found trail left → (disk.current trail).isDir = false := by
  rw [openFile] at h
  cases hlocate : disk.locate workingDir p with
  | error fault =>
    rw [hlocate] at h
    cases h
  | ok place =>
    rw [hlocate] at h
    cases place with
    | vacant parent name =>
      cases h
      exact ⟨_, rfl, rfl, rfl, nofun⟩
    | found trail left =>
      change (if _ then _ else _) = _ at h
      split at h
      · cases h
      · next hfile =>
        cases h
        refine ⟨_, rfl, rfl, rfl, ?_⟩
        rintro _ _ ⟨⟩
        simpa using hfile

/-- The place to which a path leads is where a walk from the root ends. -/
theorem walk_of_locate {workingDir p : DiskPath} {place : Place}
    (h : disk.locate workingDir p = .ok place) :
    disk.walk linkLimit (stepsFrom workingDir p) [] = .ok place := by
  rw [locate] at h
  split at h
  · cases h
  · exact h

/-- A file that cannot be opened is not written, and the disk stays as it is. -/
theorem write_of_openFile_error {workingDir p : DiskPath} {fault : DiskFault}
    (h : disk.openFile workingDir p = .error fault) (content : Octets) (device : Device) :
    disk.write workingDir p content device = (.error fault, disk) := by
  rw [write, h]

theorem write_of_openFile_ok {workingDir p : DiskPath} {names : List Octets} {opened : Disk}
    (h : disk.openFile workingDir p = .ok (names, opened)) (content : Octets) (device : Device) :
    disk.write workingDir p content device =
      ((device.take content).2, opened.set names (some (.file (device.take content).1))) := by
  rw [write, h]

/-- **Writing a file.** A proper disk is proper after a file was written, or after a part of it was.
-/
theorem isProper_write (hd : disk.isProper) (workingDir p : DiskPath) (content : Octets)
    (device : Device) : (disk.write workingDir p content device).2.isProper := by
  have hfile (o : Octets) : ∀ e ∈ some (Entry.file o), e.isProper := by simp [Entry.isProper]
  cases hopen : disk.openFile workingDir p with
  | error fault =>
    rw [write_of_openFile_error hopen]
    exact hd
  | ok result =>
    obtain ⟨names, opened⟩ := result
    obtain ⟨place, hlocate, rfl, rfl, -⟩ := place_of_openFile hopen
    have hwalk := walk_of_locate hlocate
    have hnames : ∀ n ∈ place.names, n.isFileName := by
      cases place with
      | found trail left => exact isFileName_of_mem_names hd hwalk
      | vacant parent name =>
        intro n hn
        rcases List.mem_append.mp hn with hn | hn
        · exact isFileName_of_mem_names hd hwalk n hn
        · rw [List.mem_singleton.mp hn]
          exact isFileName_of_vacant (namesFiles_stepsFrom workingDir p) hwalk
    rw [write_of_openFile_ok hopen]
    exact isProper_set (isProper_set hd hnames (hfile _)) hnames (hfile _)

/-- Making directories along file names keeps a disk proper. -/
theorem isProper_makeDirs (hd : disk.isProper) {made moves : List DiskPath.Step}
    (hmade : DiskPath.NamesFiles made) (hmoves : DiskPath.NamesFiles moves) :
    (disk.makeDirs made moves).isProper := by
  induction moves generalizing disk made with
  | nil => exact hd
  | cons step rest ih =>
    have hrest : DiskPath.NamesFiles rest := hmoves.subset (List.subset_cons_self _ _)
    have hnext : DiskPath.NamesFiles (step :: made) := by
      intro name hname
      rcases List.mem_cons.mp hname with rfl | hname
      · exact hmoves name List.mem_cons_self
      · exact hmade name hname
    rw [makeDirs]
    split
    · next parent name hwalk =>
      have hempty : ∀ e ∈ some (Entry.dir []), e.isProper := by decide
      refine ih (isProper_set_vacant hd hempty (fun n hn ↦ ?_) hwalk) hnext hrest
      exact hnext n (List.mem_reverse.mp hn)
    · exact ih hd hnext hrest

/-- **Planting an entry.** A proper disk on which something proper was put where moves along file
names lead, with the directories on the way, is proper. -/
theorem isProper_plant (hd : disk.isProper) {moves : List DiskPath.Step}
    (hmoves : DiskPath.NamesFiles moves) {e : Entry} (he : e.isProper) :
    (disk.plant moves e).isProper := by
  have hnone : DiskPath.NamesFiles [] := fun _ h ↦ nomatch h
  have hfront : DiskPath.NamesFiles moves.dropLast := hmoves.subset (List.dropLast_subset moves)
  have hnew : ∀ e' ∈ some e, e'.isProper := by
    rintro e' ⟨⟩
    exact he
  rw [plant]
  split
  · exact isProper_makeDirs hd hnone hmoves
  · have hdirs := isProper_makeDirs hd hnone hfront
    dsimp only
    split
    · next hwalk _ => exact isProper_set_found hdirs hnew hwalk
    · next hwalk _ => exact isProper_set_vacant hdirs hnew hmoves hwalk
    · split
      · next parent left name hwalk hlast =>
        have hname := hmoves name (List.mem_of_getLast? hlast)
        exact isProper_set_snoc hdirs hnew hwalk hname
      · exact hdirs

/-- **Removing an entry.** A proper disk from which something was removed is proper. -/
theorem isProper_remove (hd : disk.isProper) {moves : List DiskPath.Step}
    (hmoves : DiskPath.NamesFiles moves) : (disk.remove moves).isProper := by
  have hnothing : ∀ e ∈ (none : Option Entry), e.isProper := by simp
  rw [remove]
  split
  · next parent left name hwalk hlast =>
    have hname := hmoves name (List.mem_of_getLast? hlast)
    exact isProper_set_snoc hd hnothing hwalk hname
  · exact hd

end Disk

end PageRoutes
