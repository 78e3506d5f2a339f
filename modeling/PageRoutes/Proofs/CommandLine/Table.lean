import PageRoutes.CommandLine
import PageRoutes.Proofs.Disk.PathNames
/-!
# The routing table on the command line

Two commands show the routing table of a project: one writes the routes module, the other prints the
table as JSON. The first asks a build session for its module, the second scans the project itself.
With the same flags both have the same options, or find the same fault in them. With a page
directory both then fail alike or show one table. Without one they part: the session has no module,
so that nothing is written, but the other command scans nevertheless, in the root of the project.

## Main results

* `CommandLine.read_flags` : flags in front of the name stand for the same settings in both
  commands.
* `CommandLine.performCommand_generate`, `CommandLine.performCommand_routes` : the effects of both.
* `CommandLine.run_generate_routes` : where the runs of both agree, and where they do not.
-/

namespace PageRoutes.CommandLine

/-! ### The same flags -/

theorem eq_usage_of_readPath {text : String} {stop : Stop} (h : readPath text = .error stop) :
    stop = .usage := by
  rw [readPath] at h
  split at h
  · cases h
    rfl
  · cases h

theorem eq_usage_of_once {α : Type} {old : Option α} {new : Except Stop α} {stop : Stop}
    (hnew : ∀ stop, new = .error stop → stop = .usage) (h : once old new = .error stop) :
    stop = .usage := by
  cases old with
  | some _ =>
    cases h
    rfl
  | none =>
    cases new with
    | ok a => cases h
    | error cause =>
      cases h
      exact hnew _ rfl

/-- A value that is not taken is a mistake in the call. -/
theorem eq_usage_of_setValue {side : Side} {flag : Flag} {value : String} {stop : Stop}
    (h : side.setValue flag value = .error stop) : stop = .usage := by
  have hvalue {α : Type} {old : Option α} {new : Except Stop α} {set : Option α → Side}
      (hnew : ∀ stop, new = .error stop → stop = .usage)
      (h : (once old new >>= fun new ↦ .ok (set new)) = .error stop) : stop = .usage := by
    cases honce : once old new with
    | ok new => simp [honce, bind, Except.bind] at h
    | error cause =>
      rw [honce] at h
      cases h
      exact eq_usage_of_once hnew honce
  have hpath (stop : Stop) : readPath value = .error stop → stop = .usage := eq_usage_of_readPath
  cases flag with
  | root | config | pageDir | out => exact hvalue hpath h
  | history =>
    refine hvalue (fun stop hmode ↦ ?_) h
    cases hname : HistoryMode.ofName? value <;> simp_all
  | verbose | version | help =>
    cases h
    rfl

section Name

variable {flags : List String} {p : Progress} {name : CommandName}

/-- A command's name is taken as such unless an option waits for its value, `--` has ended the
options or help was asked for. -/
theorem step_name (text : String) (hcommand : p.command = none) (htopics : p.topics = none)
    (hpending : p.pending = none) (hended : p.optionsEnded = false)
    (hname : CommandName.ofText? text = some name) (hdash : text.toList.head? ≠ some '-')
    (hhelp : text ≠ helpName) :
    p.step text = .ok { p with command := some (name, {}) } := by
  simp only [Progress.step, htopics, hpending, hended, Bool.false_eq_true, ↓reduceIte]
  split
  · next hcs => simp [hcs] at hdash
  · next hcs => simp [hcs] at hdash
  · next hcs => simp [hcs] at hdash
  · simp [Progress.setPositional, hcommand, hname, hended, hpending, htopics, hhelp]

/-- Otherwise it is a value or a mistake, and the command is still missing. -/
theorem read_name_eq_usage (text : String) (hread : flags.foldlM Progress.step {} = .ok p)
    (hcommand : p.command = none) (htopics : p.topics = none)
    (hready : ¬(p.pending = none ∧ p.optionsEnded = false)) :
    read (flags ++ [text]) = .error .usage := by
  have hstep : p.step text = .error .usage ∨
      ∃ q, p.step text = .ok q ∧ q.command = none ∧ q.topics = none := by
    cases hpending : p.pending with
    | some flag =>
      simp only [Progress.step, htopics, hpending]
      split
      · cases hset : p.side.setValue flag text with
        | error stop =>
          cases eq_usage_of_setValue hset
          exact .inl rfl
        | ok side =>
          refine .inr ⟨p.withSide side none, rfl, ?_⟩
          simp [Progress.withSide, hcommand, htopics]
      · exact .inl rfl
    | none =>
      have hended : p.optionsEnded = true := by simpa [hpending] using hready
      simp [Progress.step, Progress.setPositional, htopics, hpending, hended, hcommand]
  rcases hstep with hstep | ⟨q, hstep, hq, hqtopics⟩
  · simp [read, List.foldlM_append, hread, hstep, bind, Except.bind]
  · cases hpending : q.pending <;>
      simp [read, List.foldlM_append, hread, hstep, hq, hqtopics, hpending, bind, Except.bind, pure,
        Except.pure]

/-- Behind `help` a command's name is a word, and so there is help, or there is none on these words.
-/
theorem read_topic {topics : List String} (text : String)
    (hread : flags.foldlM Progress.step {} = .ok p) (htopics : p.topics = some topics)
    (hname : CommandName.ofText? text = some name) :
    read (flags ++ [text]) = if topics = [] then .ok .help else .error .usage := by
  have hstep : p.step text = .ok { p with topics := some (topics ++ [text]) } := by
    simp [Progress.step, htopics]
  cases topics with
  | nil =>
    simp [read, List.foldlM_append, hread, hstep, isTopic, hname, bind, Except.bind, pure,
      Except.pure]
  | cons word rest =>
    cases rest <;>
      simp [read, List.foldlM_append, hread, hstep, isTopic, bind, Except.bind, pure, Except.pure]

/-- **The same flags.** Flags in front of the name stand for the same settings in both commands, or
make the same request or the same failure of both calls. -/
theorem read_flags (hflags : ∀ p, flags.foldlM Progress.step {} = .ok p → p.command = none) :
    read (flags ++ ["generate"]) = read (flags ++ ["routes"]) ∨
      ∃ settings, read (flags ++ ["generate"]) = .ok (.command settings (.generate none)) ∧
        read (flags ++ ["routes"]) = .ok (.command settings .routes) := by
  cases hread : flags.foldlM Progress.step {} with
  | error stop => exact .inl (by simp [read, List.foldlM_append, hread, bind, Except.bind])
  | ok p =>
    have hcommand := hflags p hread
    cases htopics : p.topics with
    | some topics =>
      have hgenerate := read_topic "generate" hread htopics rfl
      exact .inl (hgenerate.trans (read_topic "routes" hread htopics rfl).symm)
    | none =>
    by_cases hready : p.pending = none ∧ p.optionsEnded = false
    · obtain ⟨hpending, hended⟩ := hready
      have hgenerate :=
        step_name "generate" hcommand htopics hpending hended rfl (by decide) (by decide)
      have hroutes :=
        step_name "routes" hcommand htopics hpending hended rfl (by decide) (by decide)
      refine .inr ⟨⟨p.before.settings.root, p.before.settings.config, p.before.settings.pageDir,
        p.before.settings.history, p.before.settings.verbosity⟩, ?_, ?_⟩
      · simp [read, List.foldlM_append, hread, hgenerate, htopics, hpending, combine, bind,
          Except.bind, pure, Except.pure]
      · simp [read, List.foldlM_append, hread, hroutes, htopics, hpending, combine, bind,
          Except.bind, pure, Except.pure]
    · have hgenerate := read_name_eq_usage "generate" hread hcommand htopics hready
      have hroutes := read_name_eq_usage "routes" hread hcommand htopics hready
      exact .inl (hgenerate.trans hroutes.symm)

end Name

/-! ### The effects of both commands -/

section Effects

variable (settings : Settings) (out : Option DiskPath) (disk : Disk) (workingDir : DiskPath)

/-- The one command writes the module of a session that has been resolved for the project, and this
is the empty text where the page directory is empty. -/
theorem performCommand_generate :
    performCommand settings (.generate out) disk workingDir = (do
      let options ← orFail (options settings disk workingDir)
      if options.pageDir.text = "" then .ok (.output out "")
      else
        let routes ← orFail ((project settings options workingDir).routes disk workingDir)
        .ok (.output out (RoutesModule.render routes options.historyMode))) := by
  rw [performCommand]
  refine bind_congr fun o ↦ ?_
  have hload (root : DiskPath) (text : Option String) :
      (Session.resolveId EntryFile.routesModuleId).bind
        (Session.load { options := o, resolved := some ⟨root, text⟩ }) = text := by
    simp [Session.resolveId, Session.load]
  simp only [Session.resolve, Project.routesModule, project, String.isEmpty_iff]
  split
  · simp [orFail, hload, Except.map, bind, Except.bind]
  · cases Project.routes ⟨DiskPath.absolutize workingDir (settings.root.getD ⟨"."⟩), o⟩ disk
      workingDir <;> simp [orFail, hload, Except.map, bind, Except.bind]

/-- The other command prints the table. -/
theorem performCommand_routes :
    performCommand settings .routes disk workingDir = (do
      let options ← orFail (options settings disk workingDir)
      let routes ← orFail ((project settings options workingDir).routes disk workingDir)
      .ok (.print (Route.tableText routes ++ "\n"))) := rfl

/-- Without a page directory the scan begins in the root of the project. -/
theorem pageDir_project_of_empty {options : Options} (h : options.pageDir.text = "") :
    (project settings options workingDir).pageDir workingDir =
      DiskPath.absolutize workingDir (settings.root.getD ⟨"."⟩) := by
  have hpath : options.pageDir = ⟨""⟩ := congrArg DiskPath.mk h
  rw [Project.pageDir, project, hpath, DiskPath.absolutize_join_empty]

end Effects

/-! ### Runs -/

theorem run_of_read {args : List String} {request : Request} (h : read args = .ok request)
    (disk : Disk) (workingDir : DiskPath) :
    run disk workingDir args =
      perform request disk workingDir >>= Effect.apply disk workingDir := by
  rw [run, h]
  rfl

/-- **One table.** Two runs with the same settings, one for the routes module and one for the table,
end with the same failure, or they show one table, unless the page directory is empty. With an empty
page directory no module is written, whatever there is on the disk, and the table is that of the
project's root. -/
theorem run_generate_routes (disk : Disk) (workingDir : DiskPath) {args args' : List String}
    {settings : Settings} {out : Option DiskPath}
    (hgenerate : read args = .ok (.command settings (.generate out)))
    (hroutes : read args' = .ok (.command settings .routes)) :
    ((∀ o, options settings disk workingDir = .ok o → o.pageDir.text ≠ "") →
      (∃ failure, run disk workingDir args = .error failure ∧
        run disk workingDir args' = .error failure) ∨
      ∃ o routes, options settings disk workingDir = .ok o ∧
        (project settings o workingDir).routes disk workingDir = .ok routes ∧
        run disk workingDir args =
          (Effect.output out (RoutesModule.render routes o.historyMode)).apply disk workingDir ∧
        run disk workingDir args' = .ok ⟨Route.tableText routes ++ "\n", disk⟩) ∧
    ∀ o, options settings disk workingDir = .ok o → o.pageDir.text = "" →
      run disk workingDir args = (Effect.output out "").apply disk workingDir ∧
      run disk workingDir args' = (orFail (buildRouteTree disk workingDir
        (DiskPath.absolutize workingDir (settings.root.getD ⟨"."⟩)))).map fun routes ↦
          ⟨Route.tableText (Route.stripNested routes) ++ "\n", disk⟩ := by
  rw [run_of_read hgenerate, run_of_read hroutes]
  simp only [perform, performCommand_generate, performCommand_routes]
  cases hoptions : options settings disk workingDir with
  | error fault => exact ⟨fun _ ↦ .inl ⟨.fault fault, rfl, rfl⟩, fun o ho ↦ by cases ho⟩
  | ok o =>
    refine ⟨fun hdir ↦ ?_, fun o' ho hempty ↦ ?_⟩
    · have hdir := hdir o rfl
      cases hscan : (project settings o workingDir).routes disk workingDir with
      | error fault =>
        exact .inl ⟨.fault fault, by simp [orFail, hdir, hscan, bind, Except.bind], by
          simp [orFail, hscan, bind, Except.bind]⟩
      | ok routes =>
        refine .inr ⟨o, routes, rfl, hscan, ?_, ?_⟩
        · simp [orFail, hdir, hscan, bind, Except.bind]
        · simp [orFail, hscan, bind, Except.bind, Effect.apply]
    · cases ho
      refine ⟨by simp [orFail, hempty, bind, Except.bind], ?_⟩
      have hroutes : (project settings o workingDir).routes disk workingDir =
          (buildRouteTree disk workingDir
            (DiskPath.absolutize workingDir (settings.root.getD ⟨"."⟩))).map Route.stripNested := by
        rw [Project.routes, pageDir_project_of_empty settings workingDir hempty]
      simp only [orFail, bind, Except.bind, hroutes]
      cases buildRouteTree disk workingDir
        (DiskPath.absolutize workingDir (settings.root.getD ⟨"."⟩)) <;> rfl

/-- A project with a page in its page directory, one in its root, and an options file that names no
page directory. -/
def switchedOffDisk : Disk :=
  let options := "\x7b\x22pageDir\x22: \x22\x22\x7d"
  let pages : Entry := .dir [(.text "index.vue", .file (.text ""))]
  ⟨[(.text "w", .dir [(.text "about.vue", .file (.text "")),
    (.text "options.json", .file (.text options)), (.text "src", .dir [(.text "pages", pages)])])]⟩

/-- Both commands in a project with a page directory. -/
theorem run_generate_routes_default :
    ∃ routes, run switchedOffDisk ⟨"/w"⟩ ["generate"] =
        .ok ⟨RoutesModule.render routes .history, switchedOffDisk⟩ ∧
      run switchedOffDisk ⟨"/w"⟩ ["routes"] =
        .ok ⟨Route.tableText routes ++ "\n", switchedOffDisk⟩ := by
  have hgenerate : read ["generate"] = .ok (.command {} (.generate none)) := rfl
  have hroutes : read ["routes"] = .ok (.command {} .routes) := rfl
  have hoptions : options {} switchedOffDisk ⟨"/w"⟩ = .ok {} := rfl
  have hdir : ∀ o, options {} switchedOffDisk ⟨"/w"⟩ = .ok o → o.pageDir.text ≠ "" := by
    rintro o ho
    cases hoptions.symm.trans ho
    decide
  rcases (run_generate_routes switchedOffDisk ⟨"/w"⟩ hgenerate hroutes).1 hdir with
    ⟨failure, -, hfail⟩ | ⟨o, routes, ho, -, hmodule, htable⟩
  · have hok : (run switchedOffDisk ⟨"/w"⟩ ["routes"]).isOk := by decide +kernel
    rw [hfail] at hok
    cases hok
  · cases hoptions.symm.trans ho
    exact ⟨routes, hmodule, htable⟩

/-- With the routes switched off nothing is generated, but a table is printed all the same. -/
theorem exists_table_switched_off :
    (options { config := some ⟨"options.json"⟩ } switchedOffDisk ⟨"/w"⟩).toOption.map
        (fun o ↦ o.pageDir.text) = some "" ∧
      (run switchedOffDisk ⟨"/w"⟩ ["-c", "options.json", "generate"]).toOption.map
        Outcome.printed = some "" ∧
      (run switchedOffDisk ⟨"/w"⟩ ["-c", "options.json", "routes"]).toOption.map
        Outcome.printed = some (Route.tableText
          [⟨"/about", some ⟨"/w/about.vue"⟩, [], none⟩,
            ⟨"/src", none, [⟨"pages", some ⟨"/w/src/pages/index.vue"⟩, [], none⟩], none⟩] ++
              "\n") :=
  ⟨by decide +kernel, by decide +kernel, by decide +kernel⟩

end PageRoutes.CommandLine
