import PageRoutes.Proofs.Project.Pages
import PageRoutes.Session
/-!
# Histories of a build session

A build tool calls the hooks of a session in any order and with any arguments, and the disk changes
between the calls. The session changes once at most. Until an attempt to resolve it succeeds it is
the new session, whatever was attempted; an attempt that fails leaves no trace. The attempt that
succeeds fixes a root and a text, which are those of that moment: no later change of the disk and no
later attempt has an influence on them. With an empty page directory there is no text, but the
session is resolved nevertheless.

## Main definitions

* `Session.Event`, `Session.Answer` : calls of hooks, changes of the disk, and their answers.
* `Session.run`, `Session.answers` : where a history leads to, and what is answered in it.

## Main results

* `Session.session_next` : what one event does to a session.
* `Session.session_run_of_isSome`, `Session.session_run_of_not_isSuccess` : what a history does to a
  session that is resolved, and to one in which nothing succeeds.
* `Session.written_once` : the answers in a history.
-/

namespace PageRoutes.Session

/-- What happens to a session from outside. -/
inductive Event where
  | resolve (root : DiskPath)
  | resolveId (id : String)
  | load (id : String)
  | transform (code id : String)
  /-- The disk becomes another one. -/
  | change (disk : Disk)

/-- The answer to an event. -/
inductive Answer where
  | resolved (outcome : Except Fault Unit)
  | internalId (id : Option String)
  | text (text : Option String)
  | newCode (outcome : Except Fault (Option String))
  /-- The answer to a change of the disk. -/
  | nothing

/-- Whether an answer says that the session was resolved by the event. -/
def Answer.isSuccess : Answer → Bool
  | .resolved (.ok _) => true
  | _ => false

/-- A session and the disk at some moment. -/
structure Moment where
  session : Session
  disk : Disk

/-- The moment at which a session begins. -/
def begin (options : Options) (disk : Disk) : Moment := ⟨{ options }, disk⟩

section History

variable (workingDir : DiskPath)

/-- The answer to an event. -/
def answer (now : Moment) : Event → Answer
  | .resolve root => .resolved ((now.session.resolve now.disk workingDir root).map fun _ ↦ ())
  | .resolveId id => .internalId (resolveId id)
  | .load id => .text (now.session.load id)
  | .transform code id => .newCode (now.session.transform code id)
  | .change _ => .nothing

/-- The moment after an event. A session that is not resolved by an attempt stays as it is. -/
def next (now : Moment) : Event → Moment
  | .resolve root =>
    match now.session.resolve now.disk workingDir root with
    | .ok session => { now with session }
    | .error _ => now
  | .change disk => { now with disk }
  | _ => now

/-- The moment after the events of a history. -/
def run (now : Moment) (events : List Event) : Moment := events.foldl (next workingDir) now

/-- The answers to the events of a history. -/
def answers (now : Moment) : List Event → List Answer
  | [] => []
  | e :: rest => answer workingDir now e :: answers (next workingDir now e) rest

end History

variable {workingDir : DiskPath} {now : Moment}

theorem run_append (now : Moment) (before after : List Event) :
    run workingDir now (before ++ after) = run workingDir (run workingDir now before) after :=
  List.foldl_append

theorem run_cons (now : Moment) (e : Event) (events : List Event) :
    run workingDir now (e :: events) = run workingDir (next workingDir now e) events := rfl

/-! ### Attempts to resolve a session -/

/-- An attempt to resolve a session that is resolved fails. -/
theorem resolve_of_isSome {session : Session} (h : session.resolved.isSome) (disk : Disk)
    (root : DiskPath) : session.resolve disk workingDir root = .error .alreadyResolved := by
  obtain ⟨resolved, hresolved⟩ := Option.isSome_iff_exists.mp h
  rw [resolve, hresolved]

/-- An attempt to resolve a session that is not resolved succeeds if the routes can be made. -/
theorem resolve_of_eq_none {session : Session} (h : session.resolved = none) (disk : Disk)
    (root : DiskPath) :
    session.resolve disk workingDir root =
      (Project.routesModule ⟨root, session.options⟩ disk workingDir).map fun text ↦
        { session with resolved := some ⟨root, text⟩ } := by
  rw [resolve, h]

/-- The routes module has no text if and only if the page directory is empty. -/
theorem eq_none_iff_of_routesModule {project : Project} {disk : Disk} {text : Option String}
    (h : project.routesModule disk workingDir = .ok text) :
    text = none ↔ project.options.pageDir.text = "" := by
  rw [Project.routesModule] at h
  split at h
  · next hempty => simp [← Except.ok.inj h, String.isEmpty_iff.mp hempty]
  · next hne =>
    rw [String.isEmpty_iff] at hne
    cases hroutes : project.routes disk workingDir with
    | error fault =>
      rw [hroutes] at h
      cases h
    | ok routes =>
      rw [hroutes] at h
      simp [← Except.ok.inj h, hne]

/-! ### One event -/

/-- **One event.** A session stays what it is, unless the event is an attempt to resolve it that
succeeds. Such an attempt finds a session that is not resolved. -/
theorem session_next (workingDir : DiskPath) (now : Moment) (e : Event) :
    ((answer workingDir now e).isSuccess = false ∧
        (next workingDir now e).session = now.session) ∨
      ∃ root text, e = .resolve root ∧ now.session.resolved = none ∧
        Project.routesModule ⟨root, now.session.options⟩ now.disk workingDir = .ok text ∧
        (answer workingDir now e).isSuccess ∧
        (next workingDir now e).session = { now.session with resolved := some ⟨root, text⟩ } := by
  cases e with
  | resolveId id => exact .inl ⟨rfl, rfl⟩
  | load id => exact .inl ⟨rfl, rfl⟩
  | transform code id => exact .inl ⟨rfl, rfl⟩
  | change disk => exact .inl ⟨rfl, rfl⟩
  | resolve root =>
    rw [answer, next]
    cases hresolved : now.session.resolved with
    | some resolved =>
      rw [resolve_of_isSome (by simp [hresolved])]
      exact .inl ⟨rfl, rfl⟩
    | none =>
      rw [resolve_of_eq_none hresolved]
      cases htext : Project.routesModule ⟨root, now.session.options⟩ now.disk workingDir with
      | error fault => exact .inl ⟨rfl, rfl⟩
      | ok text => exact .inr ⟨root, text, rfl, rfl, htext, rfl, rfl⟩

theorem options_next (workingDir : DiskPath) (now : Moment) (e : Event) :
    (next workingDir now e).session.options = now.session.options := by
  obtain ⟨-, h⟩ | ⟨_, _, -, -, -, -, h⟩ := session_next workingDir now e <;> rw [h]

/-- Once a session is resolved, no event changes it or is answered as its resolution. -/
theorem next_of_isSome (h : now.session.resolved.isSome) (e : Event) :
    (answer workingDir now e).isSuccess = false ∧
      (next workingDir now e).session = now.session := by
  obtain hkept | ⟨_, _, -, hnone, -⟩ := session_next workingDir now e
  · exact hkept
  · simp [hnone] at h

/-- An attempt that fails changes neither the session nor the disk. -/
theorem next_resolve_of_error {root : DiskPath} {fault : Fault}
    (h : answer workingDir now (.resolve root) = .resolved (.error fault)) :
    next workingDir now (.resolve root) = now := by
  rw [answer] at h
  rw [next]
  cases hresolve : now.session.resolve now.disk workingDir root with
  | error fault => rfl
  | ok session =>
    rw [hresolve] at h
    cases h

/-- An attempt succeeds if it is answered so. -/
theorem answer_resolve_eq_iff {root : DiskPath} :
    answer workingDir now (.resolve root) = .resolved (.ok ()) ↔
      (answer workingDir now (.resolve root)).isSuccess := by
  rw [answer]
  cases now.session.resolve now.disk workingDir root <;> simp [Except.map, Answer.isSuccess]

/-! ### Histories -/

theorem options_run (workingDir : DiskPath) (now : Moment) (events : List Event) :
    (run workingDir now events).session.options = now.session.options := by
  induction events generalizing now with
  | nil => rfl
  | cons e rest ih => rw [run_cons, ih, options_next]

/-- **After the resolution.** A session that is resolved stays what it is. -/
theorem session_run_of_isSome (h : now.session.resolved.isSome) (events : List Event) :
    (run workingDir now events).session = now.session := by
  induction events generalizing now with
  | nil => rfl
  | cons e rest ih =>
    obtain ⟨-, hkept⟩ := next_of_isSome h e
    rw [run_cons, ih (by rwa [hkept]), hkept]

/-- **Before the resolution.** A session that no event has resolved stays what it is. -/
theorem session_run_of_not_isSuccess {events : List Event}
    (h : ∀ a ∈ answers workingDir now events, a.isSuccess = false) :
    (run workingDir now events).session = now.session := by
  induction events generalizing now with
  | nil => rfl
  | cons e rest ih =>
    obtain ⟨he, hrest⟩ := List.forall_mem_cons.mp h
    rw [run_cons, ih hrest]
    obtain ⟨-, hkept⟩ | ⟨_, _, -, -, -, hsuccess, -⟩ := session_next workingDir now e
    · exact hkept
    · simp [he] at hsuccess

theorem answers_append (now : Moment) (before after : List Event) :
    answers workingDir now (before ++ after) =
      answers workingDir now before ++ answers workingDir (run workingDir now before) after := by
  induction before generalizing now with
  | nil => rfl
  | cons e rest ih => rw [List.cons_append, answers, answers, ih, run_cons, List.cons_append]

/-- **One success.** At most one event of a history is answered as the resolution, and none if the
session is resolved before. -/
theorem length_filter_isSuccess (now : Moment) (events : List Event) :
    ((answers workingDir now events).filter Answer.isSuccess).length ≤
      if now.session.resolved.isSome then 0 else 1 := by
  induction events generalizing now with
  | nil => exact Nat.zero_le _
  | cons e rest ih =>
    rw [answers]
    obtain ⟨hanswer, hkept⟩ | ⟨root, text, -, hnone, -, hanswer, hnext⟩ :=
      session_next workingDir now e
    · rw [List.filter_cons_of_neg (by simp [hanswer]), ← hkept]
      exact ih _
    · have hrest := ih (next workingDir now e)
      simp only [hnext, Option.isSome_some, if_true] at hrest
      simp [List.filter_cons_of_pos hanswer, hnone, hrest]

/-! ### The answers in a history -/

/-- While no attempt has succeeded, the session has no module and changes no code, and an attempt
is answered by the routes of the moment. -/
theorem answer_of_not_isSuccess {events : List Event} (hnew : now.session.resolved = none)
    (h : ∀ a ∈ answers workingDir now events, a.isSuccess = false) :
    (∀ id, answer workingDir (run workingDir now events) (.load id) = .text none) ∧
      (∀ code id, answer workingDir (run workingDir now events) (.transform code id) =
        .newCode (.ok none)) ∧
      ∀ root, answer workingDir (run workingDir now events) (.resolve root) =
        .resolved ((Project.routesModule ⟨root, now.session.options⟩
          (run workingDir now events).disk workingDir).map fun _ ↦ ()) := by
  have hkept := session_run_of_not_isSuccess h
  refine ⟨fun id ↦ ?_, fun code id ↦ ?_, fun root ↦ ?_⟩
  · rw [answer, hkept, load, hnew]
    simp
  · rw [answer, hkept, transform, hnew]
  · rw [answer, hkept, resolve_of_eq_none hnew]
    cases Project.routesModule ⟨root, now.session.options⟩ (run workingDir now events).disk
      workingDir <;> rfl

/-- An attempt that fails might as well not have been made. -/
theorem run_append_of_error {before : List Event} {root : DiskPath} {fault : Fault}
    (h : answer workingDir (run workingDir now before) (.resolve root) = .resolved (.error fault))
    (after : List Event) :
    run workingDir now (before ++ .resolve root :: after) =
        run workingDir now (before ++ after) ∧
      answers workingDir now (before ++ .resolve root :: after) =
        answers workingDir now before ++
          .resolved (.error fault) :: answers workingDir (run workingDir now before) after := by
  constructor
  · rw [run_append, run_append, run_cons, next_resolve_of_error h]
  · rw [answers_append, answers, h, next_resolve_of_error h]

/-- The attempt that succeeds fixes the root and the text of the moment for all that follows. -/
theorem answer_of_isSuccess {before : List Event} {root : DiskPath}
    (h : answer workingDir (run workingDir now before) (.resolve root) = .resolved (.ok ())) :
    ∃ text, Project.routesModule ⟨root, now.session.options⟩ (run workingDir now before).disk
        workingDir = .ok text ∧ ∀ after : List Event,
      (∀ root', answer workingDir (run workingDir now (before ++ .resolve root :: after))
        (.resolve root') = .resolved (.error .alreadyResolved)) ∧
      (∀ id, answer workingDir (run workingDir now (before ++ .resolve root :: after)) (.load id) =
        .text (if id = resolvedModuleId then text else none)) ∧
      ∀ code id, answer workingDir (run workingDir now (before ++ .resolve root :: after))
        (.transform code id) = .newCode (if isEntryFile root id then
          (EntryFile.addRouter code (pathOfId id)).map some else .ok none) := by
  obtain ⟨hfail, -⟩ | ⟨root, text, heq, -, htext, -, hnext⟩ :=
    session_next workingDir (run workingDir now before) (.resolve root)
  · simp [h, Answer.isSuccess] at hfail
  · obtain rfl := Event.resolve.inj heq
    rw [options_run] at htext
    refine ⟨text, htext, fun after ↦ ?_⟩
    have hlater : (run workingDir now (before ++ .resolve root :: after)).session =
        { (run workingDir now before).session with resolved := some ⟨root, text⟩ } := by
      rw [run_append, run_cons, session_run_of_isSome (by simp [hnext]), hnext]
    refine ⟨fun root' ↦ ?_, fun id ↦ ?_, fun code id ↦ ?_⟩
    · rw [answer, hlater, resolve_of_isSome rfl]
      rfl
    · rw [answer, hlater, load]
      rfl
    · rw [answer, hlater, transform]

/-- **A session is written once.** Take any history of a new session.

* At most one attempt to resolve the session succeeds.
* As long as none has, no module is loaded and no code is changed, and an attempt is answered by
  what the disk of the moment gives for its root.
* An attempt that fails leaves the session and the disk as they were, and everything behind it is
  answered as if the attempt had not been made.
* Behind the attempt that succeeds, every other attempt is refused, the module that is loaded is the
  text of that moment, which is none if and only if the page directory is empty, and the entry file
  is that of the root that was given. -/
theorem written_once (options : Options) (disk : Disk) (workingDir : DiskPath) :
    let new := begin options disk
    (∀ events, ((answers workingDir new events).filter Answer.isSuccess).length ≤ 1) ∧
      (∀ before, (∀ a ∈ answers workingDir new before, a.isSuccess = false) →
        (∀ id, answer workingDir (run workingDir new before) (.load id) = .text none) ∧
        (∀ code id, answer workingDir (run workingDir new before) (.transform code id) =
          .newCode (.ok none)) ∧
        ∀ root, answer workingDir (run workingDir new before) (.resolve root) =
          .resolved ((Project.routesModule ⟨root, options⟩ (run workingDir new before).disk
            workingDir).map fun _ ↦ ())) ∧
      (∀ before root fault,
        answer workingDir (run workingDir new before) (.resolve root) = .resolved (.error fault) →
        ∀ after, run workingDir new (before ++ .resolve root :: after) =
            run workingDir new (before ++ after) ∧
          answers workingDir new (before ++ .resolve root :: after) =
            answers workingDir new before ++
              .resolved (.error fault) :: answers workingDir (run workingDir new before) after) ∧
      ∀ before root,
        answer workingDir (run workingDir new before) (.resolve root) = .resolved (.ok ()) →
        ∃ text, Project.routesModule ⟨root, options⟩ (run workingDir new before).disk workingDir =
            .ok text ∧
          (text = none ↔ options.pageDir.text = "") ∧ ∀ after : List Event,
          (∀ root', answer workingDir (run workingDir new (before ++ .resolve root :: after))
            (.resolve root') = .resolved (.error .alreadyResolved)) ∧
          (∀ id, answer workingDir (run workingDir new (before ++ .resolve root :: after))
            (.load id) = .text (if id = resolvedModuleId then text else none)) ∧
          ∀ code id, answer workingDir (run workingDir new (before ++ .resolve root :: after))
            (.transform code id) = .newCode (if isEntryFile root id then
              (EntryFile.addRouter code (pathOfId id)).map some else .ok none) := by
  intro new
  refine ⟨?_, ?_, ?_, ?_⟩
  · exact length_filter_isSuccess new
  · exact fun before h ↦ answer_of_not_isSuccess rfl h
  · exact fun before root fault h after ↦ run_append_of_error h after
  · intro before root h
    obtain ⟨text, htext, hafter⟩ := answer_of_isSuccess h
    exact ⟨text, htext, eq_none_iff_of_routesModule htext, hafter⟩

/-- A history in which a first attempt finds no page directory and a second one, on another disk,
succeeds. -/
theorem written_once_retry :
    ∃ before, (answers ⟨"/w"⟩ (begin {} ⟨[]⟩) before).map Answer.isSuccess = [false, false] ∧
      answer ⟨"/w"⟩ (run ⟨"/w"⟩ (begin {} ⟨[]⟩) before) (.resolve ⟨"/w"⟩) = .resolved (.ok ()) ∧
      ∃ text, Project.routesModule ⟨⟨"/w"⟩, {}⟩ Project.sampleDisk ⟨"/w"⟩ = .ok text ∧
        text ≠ none ∧ ∀ after : List Event,
        answer ⟨"/w"⟩ (run ⟨"/w"⟩ (begin {} ⟨[]⟩) (before ++ .resolve ⟨"/w"⟩ :: after))
          (.load resolvedModuleId) = .text text := by
  have hsuccess : answer ⟨"/w"⟩ (run ⟨"/w"⟩ (begin {} ⟨[]⟩)
      [.resolve ⟨"/w"⟩, .change Project.sampleDisk]) (.resolve ⟨"/w"⟩) = .resolved (.ok ()) :=
    answer_resolve_eq_iff.mpr (by decide +kernel)
  refine ⟨[.resolve ⟨"/w"⟩, .change Project.sampleDisk], by decide +kernel, hsuccess, ?_⟩
  obtain ⟨text, htext, hnone, hafter⟩ := (written_once {} ⟨[]⟩ ⟨"/w"⟩).2.2.2 _ _ hsuccess
  refine ⟨text, htext, fun h ↦ ?_, fun after ↦ ?_⟩
  · exact absurd (hnone.mp h) (by decide)
  · simpa using (hafter after).2.1 resolvedModuleId

end PageRoutes.Session
