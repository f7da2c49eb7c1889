import Grammers.ForumTopicFilter.Dispatch

/-!
# The tasks of `forum-topic-filter`

Each spawned task runs `handle_update` on one update and then reports its error, if any, on
stderr.  In the runtime, though, tasks interleave with the loop and with each other, each getting
its turns when the scheduler gives them, and a task may still be waiting on its request when
`async_main` returns.  None of this changes what a task does: the effects a run gives to a task
are a partial run of that task's own program, as if it had run alone.  What a task sends and what
it writes to stderr are read off that.

## What is here

* `effectsBy` — the effects of the `i`-th task, read off a trace; `sentBy`, the messages among
  them.
* `handlerTask_eprints` — along any partial run of a task, its stderr is empty, or the one report
  of its failed request, sent after the request.
* `Runtime.TasksReach` — for every spawned task, its effects take the program of its update from
  the start to what is left of the task; a task not yet spawned has done nothing.  One turn keeps
  it (`tasksReach_step`), so every run does (`tasksReach_run`).
* `run_tasks_reach` — that, for every run: each task behaves as its own program.
* `run_sends` — in every run, what each task has sent is a prefix of its update's reply, and all
  of it once the task has finished.
* `run_eprints` — in every run, each task has written at most one line to stderr, the report of
  its request's failure.
* `run_spec` — every run hands off exactly the updates of `dispatch`, one task each, running
  `handlerTask` on its update; it saves the session once exactly when the loop ended on the
  signal, and returns the transport error exactly when it ended on one.
-/

set_option autoImplicit false

namespace Grammers

variable {S : Schema}

/-- The effects the `i`-th task performed, in order, as a trace records them. -/
def effectsBy (i : Nat) (trace : List (Origin × Effect S)) : List (Effect S) :=
  trace.filterMap fun x => if x.1 = .task i then some x.2 else none

/-- The messages the `i`-th task has sent, as a trace records them. -/
def sentBy (i : Nat) (trace : List (Origin × Effect S)) : List (S.Chat × String) :=
  sends (trace.filterMap fun x => if x.1 = .task i then some x.2 else none)

theorem effectsBy_append (i : Nat) (xs ys : List (Origin × Effect S)) :
    effectsBy i (xs ++ ys) = effectsBy i xs ++ effectsBy i ys := by
  simp only [effectsBy, List.filterMap_append]

theorem effectsBy_task (i j : Nat) (e : Effect S) :
    effectsBy i [(.task j, e)] = if j = i then [e] else [] := by
  by_cases h : j = i <;> simp [effectsBy, h]

/-! ## One task on its own -/

/-- **What a task can have written to stderr.**  Along any partial run of the task of an update,
nothing, or the one report of a failed request; and then the request was the update's reply. -/
theorem handlerTask_eprints {update : Update S} {allowedTopics : List I32}
    {es : List (Effect S)} {q : Io S Unit} (h : (handlerTask update allowedTopics).Reaches es q) :
    eprints es = [] ∨ ∃ e, eprints es = ["Error handling updates: " ++ S.displayInvocationError e] ∧
      sends es = reply allowedTopics update := by
  obtain ⟨lines, hu⟩ := handleUpdate_eq_printlns update allowedTopics
  rw [handlerTask, hu, Io.printlns_bind] at h
  rcases h.printlns_cases with ⟨-, he⟩ | ⟨es', hs, he, h'⟩
  · exact .inl he
  rw [hs, he, reply]
  generalize answer allowedTopics update = a at h' ⊢
  rcases a with _ | ⟨m, t⟩
  · -- nothing to send: the task ends after its log lines
    rw [h'.eq_nil_of_pure]
    exact .inl rfl
  cases h' with
  | refl => exact .inl rfl
  | @step _ _ _ r _ _ hn h' =>
    cases hn
    rcases r with err | _
    · -- the request failed: one report on stderr, and the task ends
      cases h' with
      | refl => exact .inl rfl
      | step hn h' =>
        cases hn
        rw [h'.eq_nil_of_pure]
        exact .inr ⟨err, rfl, rfl⟩
    · rw [h'.eq_nil_of_pure]
      exact .inl rfl

/-! ## Every task, in every run -/

section Run

variable (saved : Except S.IoError Unit) (allowedTopics : List I32)

/-- What every reachable state satisfies, task by task. -/
structure Runtime.TasksReach (rt : Runtime S) : Prop where
  /-- A task's effects take the program of its update from the start to what is left of it. -/
  spawned : ∀ i p u, rt.tasks[i]? = some p → (spawnedOf rt.trace)[i]? = some u →
    (handlerTask u allowedTopics).Reaches (effectsBy i rt.trace) p
  /-- A task not yet spawned has done nothing. -/
  unspawned : ∀ i, rt.tasks.length ≤ i → effectsBy i rt.trace = []

theorem Runtime.tasksReach_init : (Runtime.init : Runtime S).TasksReach allowedTopics :=
  ⟨fun i p u hp => by simp [Runtime.init] at hp, fun _ _ => rfl⟩

theorem tasksReach_loopStep {rt : Runtime S} (hi : rt.Inv) (h : rt.TasksReach allowedTopics)
    (race : Race S) : (loopStep saved allowedTopics rt race).TasksReach allowedTopics := by
  obtain ⟨hspawned, hunspawned⟩ := h
  rcases race with _ | (_ | update)
  · -- `async_main` prints and saves: no task's effects and no hand-off change
    refine ⟨fun i p u hp hu => ?_, fun i hle => ?_⟩
    · simp only [loopStep, spawnedOf_append, effectsBy_append] at hp hu ⊢
      have hu' : (spawnedOf rt.trace)[i]? = some u := by
        simpa [spawnedOf, Effect.spawned?] using hu
      simpa [effectsBy] using hspawned i p u hp hu'
    · simpa [loopStep, effectsBy_append, effectsBy] using hunspawned i hle
  · exact ⟨hspawned, hunspawned⟩
  · -- a hand-off: a new task, the update's handler, which has done nothing yet
    have hlen := hi.tasks_length
    have hmain : ∀ i, effectsBy i (rt.trace ++ [(.main, .spawn update)]) = effectsBy i rt.trace :=
      fun i => by simp [effectsBy_append, effectsBy]
    have hspawn :
        spawnedOf (rt.trace ++ [(.main, .spawn update)]) = spawnedOf rt.trace ++ [update] := by
      simp [spawnedOf_append, spawnedOf, Effect.spawned?]
    refine ⟨fun i p u hp hu => ?_, fun i hle => ?_⟩
    · simp only [loopStep, hmain, hspawn] at hp hu ⊢
      rcases Nat.lt_or_ge i rt.tasks.length with hlt | hge
      · rw [List.getElem?_append_left hlt] at hp
        rw [List.getElem?_append_left (hlen ▸ hlt)] at hu
        exact hspawned i p u hp hu
      · rw [List.getElem?_append_right hge] at hp
        rw [List.getElem?_append_right (hlen ▸ hge), ← hlen] at hu
        rcases hk : i - rt.tasks.length with _ | k
        · simp only [hk, List.getElem?_cons_zero, Option.some.injEq] at hp hu
          subst hp hu
          rw [hunspawned i hge]
          exact .refl _
        · simp [hk] at hp
    · simp only [loopStep, hmain, List.length_append, List.length_singleton] at hle ⊢
      exact hunspawned i (by omega)

theorem tasksReach_taskStep {rt : Runtime S} (h : rt.TasksReach allowedTopics) (i : Nat)
    (r : Except S.InvocationError (Message S)) : (taskStep rt i r).TasksReach allowedTopics := by
  simp only [taskStep]
  split
  · exact h
  · rename_i p hp
    split
    · exact h
    · rename_i e rest hnext
      have hlt : i < rt.tasks.length := (List.getElem?_eq_some_iff.1 hp).1
      have hspawn : spawnedOf (rt.trace ++ [(.task i, e)]) = spawnedOf rt.trace := by
        simp [spawnedOf_append, spawnedOf, (Io.next_effect hnext).1]
      refine ⟨fun j p' u hp' hu => ?_, fun j hle => ?_⟩
      · rw [hspawn] at hu
        rw [effectsBy_append, effectsBy_task]
        by_cases hij : i = j
        · -- the task that moved: one more effect of its own program
          subst hij
          rw [List.getElem?_set_self hlt] at hp'
          cases hp'
          rw [if_pos rfl]
          exact (h.spawned i p u hp hu).snoc hnext
        · rw [List.getElem?_set_ne hij] at hp'
          rw [if_neg hij, List.append_nil]
          exact h.spawned j p' u hp' hu
      · rw [List.length_set] at hle
        rw [effectsBy_append, effectsBy_task, if_neg (by omega), List.append_nil]
        exact h.unspawned j hle

theorem tasksReach_step {rt : Runtime S} (hi : rt.Inv) (h : rt.TasksReach allowedTopics)
    (s : Sched S) : (step saved allowedTopics rt s).TasksReach allowedTopics := by
  rcases s with race | ⟨i, r⟩ <;> simp only [step] <;> split
  · exact tasksReach_loopStep saved allowedTopics hi h race
  · exact h
  · exact tasksReach_taskStep allowedTopics h i r
  · exact h

theorem tasksReach_run {rt : Runtime S} (hi : rt.Inv) (h : rt.TasksReach allowedTopics)
    (scheds : List (Sched S)) : (run saved allowedTopics rt scheds).TasksReach allowedTopics := by
  induction scheds generalizing rt with
  | nil => exact h
  | cons s ss ih =>
    exact ih (inv_step saved allowedTopics hi s) (tasksReach_step saved allowedTopics hi h s)

/-- Where the `i`-th task of a reachable state is: not spawned, having done nothing, or spawned
for an update, its effects a partial run of that update's handler up to what is left of it. -/
theorem Runtime.TasksReach.cases {rt : Runtime S} (hi : rt.Inv) (h : rt.TasksReach allowedTopics)
    (i : Nat) :
    ((spawnedOf rt.trace)[i]? = none ∧ rt.tasks[i]? = none ∧ effectsBy i rt.trace = []) ∨
      ∃ u p, (spawnedOf rt.trace)[i]? = some u ∧ rt.tasks[i]? = some p ∧
        (handlerTask u allowedTopics).Reaches (effectsBy i rt.trace) p := by
  cases hp : rt.tasks[i]? with
  | none =>
    have hle := List.getElem?_eq_none_iff.1 hp
    exact .inl ⟨List.getElem?_eq_none_iff.2 (hi.tasks_length ▸ hle), rfl, h.unspawned i hle⟩
  | some p =>
    have hlt := (List.getElem?_eq_some_iff.1 hp).1
    rw [hi.tasks_length] at hlt
    exact .inr ⟨_, p, List.getElem?_eq_getElem hlt, rfl,
      h.spawned i p _ hp (List.getElem?_eq_getElem hlt)⟩

/-- Where the `i`-th task is after a run. -/
theorem run_task_cases (scheds : List (Sched S)) (i : Nat) :
    let rt := run saved allowedTopics Runtime.init scheds
    ((spawnedOf rt.trace)[i]? = none ∧ rt.tasks[i]? = none ∧ effectsBy i rt.trace = []) ∨
      ∃ u p, (spawnedOf rt.trace)[i]? = some u ∧ rt.tasks[i]? = some p ∧
        (handlerTask u allowedTopics).Reaches (effectsBy i rt.trace) p :=
  (tasksReach_run saved allowedTopics Runtime.inv_init (Runtime.tasksReach_init allowedTopics)
    scheds).cases allowedTopics (inv_run saved allowedTopics Runtime.inv_init scheds) i

end Run

/-- **Every task runs its own handler.**  Whatever the interleaving of the loop with its tasks and
whatever the server answers, the effects a run gives to its `i`-th task take `handlerTask` of the
`i`-th update handed off from its start to what is left of that task: each task does what it
would have done alone on its update.  No effect goes to a task that was never spawned. -/
theorem run_tasks_reach (saved : Except S.IoError Unit) (allowedTopics : List I32)
    (scheds : List (Sched S)) (i : Nat) :
    let rt := run saved allowedTopics Runtime.init scheds
    (∀ u p, (spawnedOf rt.trace)[i]? = some u → rt.tasks[i]? = some p →
      (handlerTask u allowedTopics).Reaches (effectsBy i rt.trace) p) ∧
    ((spawnedOf rt.trace)[i]? = none → effectsBy i rt.trace = []) := by
  intro rt
  rcases run_task_cases saved allowedTopics scheds i with ⟨hu, -, he⟩ | ⟨u, p, hu, hp, hr⟩
  · exact ⟨fun u _ hu' => (by rw [hu] at hu'; cases hu'), fun _ => he⟩
  · refine ⟨fun u' p' hu' hp' => ?_, fun hu' => by rw [hu] at hu'; cases hu'⟩
    rw [hu] at hu'
    rw [hp] at hp'
    cases hu'
    cases hp'
    exact hr

/-- **A task reports its failure, once.**  Whatever the interleaving and whatever the server
answers, the `i`-th task of a run has written nothing to stderr, or exactly one line,
"Error handling updates: " and the text of the invocation error its request failed with; and
then it has sent its update's echo. -/
theorem run_eprints (saved : Except S.IoError Unit) (allowedTopics : List I32)
    (scheds : List (Sched S)) (i : Nat) :
    let rt := run saved allowedTopics Runtime.init scheds
    eprints (effectsBy i rt.trace) = [] ∨
      ∃ e u, eprints (effectsBy i rt.trace) =
          ["Error handling updates: " ++ S.displayInvocationError e] ∧
        (spawnedOf rt.trace)[i]? = some u ∧ sentBy i rt.trace = reply allowedTopics u := by
  intro rt
  rcases run_task_cases saved allowedTopics scheds i with ⟨-, -, he⟩ | ⟨u, p, hu, -, hr⟩
  · exact .inl (by rw [he]; rfl)
  · rcases handlerTask_eprints hr with he | ⟨e, he, hs⟩
    · exact .inl he
    · exact .inr ⟨e, u, he, hu, hs⟩

/-! ## The dispatch loop, over every run -/

/-- **The dispatch loop, over every run.**  Whatever the interleaving of the loop with its
tasks, and whatever the tasks' requests are answered with, a run hands off — and spawns a task
for — exactly the updates that arrived before the first shutdown signal or transport error, in
arrival order, and the `i`-th task is what is left of `handlerTask` — `handle_update` and the
report of its error — on the `i`-th of them.  It saves the session once if the signal came first
and never otherwise; `async_main` returns the save's result after the signal, the transport
error after one, and is still running if neither came.  No task ever writes the session. -/
theorem run_spec (saved : Except S.IoError Unit) (allowedTopics : List I32)
    (scheds : List (Sched S)) :
    let rt := run saved allowedTopics Runtime.init scheds
    let d := dispatch (scheds.filterMap Sched.race?)
    spawnedOf rt.trace = d.1 ∧ rt.tasks.length = d.1.length ∧
      (∀ i u p, d.1[i]? = some u → rt.tasks[i]? = some p →
        (handlerTask u allowedTopics).Reaches (effectsBy i rt.trace) p) ∧
      saveCount rt.trace = endSaves d.2 ∧ rt.main = endMain saved d.2 ∧
      ∀ x ∈ rt.trace, x.2.writesSession = true → x.1 = .main := by
  have hv := view_run saved allowedTopics Runtime.init scheds
  rw [show (Runtime.init : Runtime S).view = ⟨.running, [], 0⟩ from rfl,
    foldl_viewStep_running] at hv
  obtain ⟨hlen, hsave⟩ := inv_run saved allowedTopics Runtime.inv_init scheds
  have hreach := tasksReach_run saved allowedTopics Runtime.inv_init
    (Runtime.tasksReach_init allowedTopics) scheds
  simp only [Runtime.view, View.mk.injEq, List.nil_append, Nat.zero_add] at hv
  obtain ⟨hmain, hspawned, hsaves⟩ := hv
  refine ⟨hspawned, hlen.trans (congrArg List.length hspawned), fun i u p hu hp => ?_, hsaves,
    hmain, hsave⟩
  exact hreach.spawned i p u hp (hspawned ▸ hu)

end Grammers
