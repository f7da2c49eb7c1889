import Grammers.ForumTopicFilter.Handler

/-!
# The dispatch loop of `forum-topic-filter`

After signing in, `async_main` loops: it races `ctrl_c()` against `next_update()`, breaks on the
first, returns the error of the second if it failed, and otherwise spawns a task running
`handle_update` on the update, without waiting for it.  After the loop it saves the session.

The process is a single-threaded runtime: `async_main` and the spawned tasks run in turns, each
until its next `await`.  Here that is a `Runtime` — where `async_main` is, the spawned tasks
with what is left of their programs, and the trace of everything done so far and by whom — and
a `step` for each turn the scheduler can give: to `async_main`, whose `select` resolves one way
or the other, or to a task, which performs its next effect.  A run is any sequence of turns, so
it covers every interleaving of the loop with its handlers and every response a handler's
request can get.  Once `async_main` has returned, `block_on` returns and the runtime is dropped
with whatever tasks are left, so nothing more happens.

## What is here

* `Runtime.view` — what the loop itself has done: where `async_main` is, the updates it handed
  off, how often it saved.  A task's turn does not change it (`view_step_task`), and the loop's
  turn changes it by `View.step` whatever the tasks are doing (`view_step_main`); so a run's view
  is the sequential loop's on the run's race resolutions alone (`view_run`).
* `Runtime.Inv` — one task per handed-off update, and only `async_main` ever writes the session;
  it holds of every run (`inv_run`).
* `dispatch` — the specification's dispatcher (§4.3) on a sequence of race resolutions, which the
  sequential loop computes on its view (`foldl_viewStep_running`).  What that gives of every run,
  `run_spec`, is stated in `Grammers.ForumTopicFilter.Tasks`, together with the program each
  spawned task runs.
-/

set_option autoImplicit false

namespace Grammers

variable {S : Schema}

/-- `SESSION_FILE` -/
def sessionFile : String := "forum-topic-filter.session"

/-- Who performed an effect: `async_main`, or the `i`-th spawned task. -/
inductive Origin where
  | main
  | task (i : Nat)
  deriving DecidableEq, Repr

/-- What the loop's `select` resolves to. -/
inductive Race (S : Schema) where
  /-- `ctrl_c()` finished first, with an `io::Result` the loop does not look at. -/
  | exit (signal : Except S.IoError Unit)
  /-- `next_update()` finished first. -/
  | upd (update : Except S.InvocationError (Update S))

/-- Where `async_main` is. -/
inductive Main (S : Schema) where
  /-- In the loop, at the `select`. -/
  | running
  /-- Returned, with this result. -/
  | returned (result : Result S)

/-- The state of the process from the first iteration of the loop on. -/
structure Runtime (S : Schema) where
  /-- Where `async_main` is. -/
  main : Main S
  /-- The spawned tasks, in spawn order, each as what is left of its program. -/
  tasks : List (Io S Unit)
  /-- Everything done so far, in order, with who did it. -/
  trace : List (Origin × Effect S)

/-- The state at the first `select`, with nothing spawned yet. -/
def Runtime.init : Runtime S := ⟨.running, [], []⟩

/-- A turn the scheduler can give. -/
inductive Sched (S : Schema) where
  /-- To `async_main`, whose `select` resolves with `race`. -/
  | main (race : Race S)
  /-- To the `i`-th task; `response` answers the message it sends, if it sends one now. -/
  | task (i : Nat) (response : Except S.InvocationError (Message S))

/-- The race resolution of a turn given to `async_main`. -/
def Sched.race? : Sched S → Option (Race S)
  | .main race => some race
  | .task _ _ => none

/-- The task spawned for an update: `handle_update`, with its error, if any, on stderr. -/
def handlerTask (update : Update S) (allowedTopics : List I32) : Io S Unit :=
  (handleUpdate update allowedTopics).bind fun
    | .ok _ => .pure ()
    | .error e => .eprintln ("Error handling updates: " ++ e.display) (.pure ())

/-- `save_to_file(SESSION_FILE)?; Ok(())`, the session file's write answering `saved`. -/
def saveResult (saved : Except S.IoError Unit) : Result S :=
  match saved with
  | .ok _ => .ok ()
  | .error e => .error (.io e)

/-- One iteration of the loop, from what its `select` resolved to. -/
def loopStep (saved : Except S.IoError Unit) (allowedTopics : List I32) (rt : Runtime S) :
    Race S → Runtime S
  | .exit _ => { rt with
      main := .returned (saveResult saved)
      trace := rt.trace ++ [(.main, .println "Saving session file and exiting..."),
        (.main, .saveToFile sessionFile)] }
  | .upd (.error e) => { rt with main := .returned (.error (.invocation e)) }
  | .upd (.ok update) => { rt with
      tasks := rt.tasks ++ [handlerTask update allowedTopics]
      trace := rt.trace ++ [(.main, .spawn update)] }

/-- The `i`-th task's turn: it performs its next effect. -/
def taskStep (rt : Runtime S) (i : Nat) (response : Except S.InvocationError (Message S)) :
    Runtime S :=
  match rt.tasks[i]? with
  | none => rt
  | some p =>
    match p.next response with
    | none => rt
    | some (effect, rest) =>
      { rt with tasks := rt.tasks.set i rest, trace := rt.trace ++ [(.task i, effect)] }

/-- One turn.  Nothing happens once `async_main` has returned. -/
def step (saved : Except S.IoError Unit) (allowedTopics : List I32) (rt : Runtime S) :
    Sched S → Runtime S
  | .main race =>
    match rt.main with
    | .running => loopStep saved allowedTopics rt race
    | .returned _ => rt
  | .task i response =>
    match rt.main with
    | .running => taskStep rt i response
    | .returned _ => rt

/-- A run: the turns, in order. -/
def run (saved : Except S.IoError Unit) (allowedTopics : List I32) (rt : Runtime S)
    (scheds : List (Sched S)) : Runtime S :=
  scheds.foldl (step saved allowedTopics) rt

/-! ## What a run shows of the loop -/

/-- The update an effect hands off, if it is a spawn. -/
def Effect.spawned? : Effect S → Option (Update S)
  | .spawn update => some update
  | _ => none

/-- Whether an effect writes the session. -/
def Effect.writesSession : Effect S → Bool
  | .saveToFile _ => true
  | _ => false

/-- The updates handed off in a trace, in order. -/
def spawnedOf (trace : List (Origin × Effect S)) : List (Update S) :=
  trace.filterMap (·.2.spawned?)

theorem spawnedOf_append (xs ys : List (Origin × Effect S)) :
    spawnedOf (xs ++ ys) = spawnedOf xs ++ spawnedOf ys := by
  simp only [spawnedOf, List.filterMap_append]

/-- How often a trace writes the session. -/
def saveCount (trace : List (Origin × Effect S)) : Nat := trace.countP (·.2.writesSession)

/-- A task only prints and sends: it neither spawns nor writes the session. -/
theorem Io.next_effect {α : Type} {p p' : Io S α} {r : Except S.InvocationError (Message S)}
    {e : Effect S} (h : p.next r = some (e, p')) :
    e.spawned? = none ∧ e.writesSession = false := by
  cases p <;> simp only [Io.next, Option.some.injEq, Prod.mk.injEq, reduceCtorEq] at h <;>
    obtain ⟨rfl, -⟩ := h <;> exact ⟨rfl, rfl⟩

/-- What the loop itself has done. -/
structure View (S : Schema) where
  main : Main S
  spawned : List (Update S)
  saves : Nat

/-- The view of a runtime. -/
def Runtime.view (rt : Runtime S) : View S := ⟨rt.main, spawnedOf rt.trace, saveCount rt.trace⟩

/-- The loop's iteration, on its view. -/
def View.step (saved : Except S.IoError Unit) : View S → Race S → View S
  | ⟨.running, us, n⟩, .exit _ => ⟨.returned (saveResult saved), us, n + 1⟩
  | ⟨.running, us, n⟩, .upd (.error e) => ⟨.returned (.error (.invocation e)), us, n⟩
  | ⟨.running, us, n⟩, .upd (.ok update) => ⟨.running, us ++ [update], n⟩
  | v@⟨.returned _, _, _⟩, _ => v

section Run

variable (saved : Except S.IoError Unit) (allowedTopics : List I32)

/-- A task's turn leaves the loop's view as it was. -/
theorem view_step_task (rt : Runtime S) (i : Nat) (r : Except S.InvocationError (Message S)) :
    (step saved allowedTopics rt (.task i r)).view = rt.view := by
  simp only [step]
  split
  · simp only [taskStep]
    split
    · rfl
    · split
      · rfl
      · rename_i h
        obtain ⟨h1, h2⟩ := Io.next_effect h
        simp [Runtime.view, spawnedOf, saveCount, h1, h2]
  · rfl

/-- The loop's turn changes its view by `View.step`, whatever the tasks are doing. -/
theorem view_step_main (rt : Runtime S) (race : Race S) :
    (step saved allowedTopics rt (.main race)).view = rt.view.step saved race := by
  rcases rt with ⟨_ | _, tasks, trace⟩
  · rcases race with _ | (_ | _) <;>
      simp [step, loopStep, Runtime.view, View.step, spawnedOf, saveCount, Effect.spawned?,
        Effect.writesSession]
  · rfl

/-- **A run's view is the sequential loop's**, on the run's race resolutions alone. -/
theorem view_run (rt : Runtime S) (scheds : List (Sched S)) :
    (run saved allowedTopics rt scheds).view =
      (scheds.filterMap Sched.race?).foldl (View.step saved) rt.view := by
  induction scheds generalizing rt with
  | nil => rfl
  | cons s ss ih =>
    rcases s with race | ⟨i, r⟩
    · simp only [run, List.foldl_cons, List.filterMap_cons, Sched.race?] at ih ⊢
      rw [ih, view_step_main]
    · simp only [run, List.foldl_cons, List.filterMap_cons, Sched.race?] at ih ⊢
      rw [ih, view_step_task]

/-! ### One task per hand-off, and one writer of the session -/

/-- What every reachable state satisfies. -/
structure Runtime.Inv (rt : Runtime S) : Prop where
  /-- A task for each update handed off. -/
  tasks_length : rt.tasks.length = (spawnedOf rt.trace).length
  /-- Only `async_main` writes the session. -/
  main_saves : ∀ x ∈ rt.trace, x.2.writesSession = true → x.1 = .main

theorem Runtime.inv_init : (Runtime.init : Runtime S).Inv := ⟨rfl, by simp [Runtime.init]⟩

theorem inv_loopStep {rt : Runtime S} (h : rt.Inv) (race : Race S) :
    (loopStep saved allowedTopics rt race).Inv := by
  obtain ⟨hlen, hsave⟩ := h
  rcases race with _ | (_ | _)
  · refine ⟨by simpa [loopStep, spawnedOf, Effect.spawned?] using hlen, ?_⟩
    intro x hx hw
    simp only [loopStep, List.mem_append, List.mem_cons, List.mem_nil_iff, or_false] at hx
    rcases hx with hx | rfl | rfl
    · exact hsave x hx hw
    · cases hw
    · rfl
  · exact ⟨hlen, hsave⟩
  · refine ⟨by simpa [loopStep, spawnedOf, Effect.spawned?] using hlen, ?_⟩
    simp only [loopStep, List.mem_append, List.mem_singleton]
    rintro x (hx | rfl)
    · exact hsave x hx
    · intro; rfl

theorem inv_taskStep {rt : Runtime S} (h : rt.Inv) (i : Nat)
    (r : Except S.InvocationError (Message S)) : (taskStep rt i r).Inv := by
  obtain ⟨hlen, hsave⟩ := h
  simp only [taskStep]
  split
  · exact ⟨hlen, hsave⟩
  · split
    · exact ⟨hlen, hsave⟩
    · rename_i hnext
      obtain ⟨h1, h2⟩ := Io.next_effect hnext
      refine ⟨by simpa [spawnedOf, h1] using hlen, ?_⟩
      simp only [List.mem_append, List.mem_singleton]
      rintro x (hx | rfl)
      · exact hsave x hx
      · simp [h2]

theorem inv_step {rt : Runtime S} (h : rt.Inv) (s : Sched S) :
    (step saved allowedTopics rt s).Inv := by
  rcases s with race | ⟨i, r⟩ <;> simp only [step] <;> split
  · exact inv_loopStep saved allowedTopics h race
  · exact h
  · exact inv_taskStep h i r
  · exact h

theorem inv_run {rt : Runtime S} (h : rt.Inv) (scheds : List (Sched S)) :
    (run saved allowedTopics rt scheds).Inv := by
  induction scheds generalizing rt with
  | nil => exact h
  | cons s ss ih => exact ih (inv_step saved allowedTopics h s)

end Run

/-! ## The specification's dispatcher -/

/-- How the loop ends. -/
inductive Ending (S : Schema) where
  /-- On the shutdown signal. -/
  | shutdown
  /-- On a transport error from `next_update`. -/
  | transport (e : S.InvocationError)

/-- The specification's dispatcher (§4.3), read off the race resolutions: the updates handed
off, in arrival order, up to the first shutdown signal or transport error, and which of the two
ended the loop, if one did. -/
def dispatch : List (Race S) → List (Update S) × Option (Ending S)
  | [] => ([], none)
  | .exit _ :: _ => ([], some .shutdown)
  | .upd (.error e) :: _ => ([], some (.transport e))
  | .upd (.ok update) :: rs => (update :: (dispatch rs).1, (dispatch rs).2)

/-- Where `async_main` is after the loop has ended, or not, as `ending` says. -/
def endMain (saved : Except S.IoError Unit) : Option (Ending S) → Main S
  | none => .running
  | some .shutdown => .returned (saveResult saved)
  | some (.transport e) => .returned (.error (.invocation e))

/-- How often the session is saved when the loop has ended, or not, as `ending` says. -/
def endSaves : Option (Ending S) → Nat
  | some .shutdown => 1
  | _ => 0

theorem foldl_viewStep_returned (saved : Except S.IoError Unit) (result : Result S)
    (us : List (Update S)) (n : Nat) (rs : List (Race S)) :
    rs.foldl (View.step saved) ⟨.returned result, us, n⟩ = ⟨.returned result, us, n⟩ := by
  induction rs with
  | nil => rfl
  | cons r rs ih => exact ih

/-- The sequential loop, on its view, is the specification's dispatcher. -/
theorem foldl_viewStep_running (saved : Except S.IoError Unit) (rs : List (Race S))
    (us : List (Update S)) (n : Nat) :
    rs.foldl (View.step saved) ⟨.running, us, n⟩ =
      ⟨endMain saved (dispatch rs).2, us ++ (dispatch rs).1, n + endSaves (dispatch rs).2⟩ := by
  induction rs generalizing us n with
  | nil => simp [dispatch, endMain, endSaves]
  | cons r rs ih =>
    rcases r with _ | (_ | _) <;>
      simp [View.step, dispatch, endMain, endSaves, foldl_viewStep_returned, ih]

end Grammers
