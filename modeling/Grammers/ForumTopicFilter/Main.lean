import Grammers.ForumTopicFilter.Args
import Grammers.ForumTopicFilter.Dispatch

/-!
# `async_main` of `forum-topic-filter`, from its first line

Before its loop, `async_main` reads its configuration and signs in: it parses the build-time
`TG_ID`, takes the bot token and the topic from the command line, loads or creates the session
file, connects, and — when the stored session is not authorized — signs the bot in and saves the
session.  Each `expect` is a panic, each `?` a return of the error.  Nothing else runs meanwhile:
no task exists before the loop, so the set-up is written here as a plain function of what the
world answers (`Startup`), giving the steps it took and how it ended.

## What is here

* `Startup`, `Step`, `MainError`, `SetupEnd` and `setup` — the set-up, line for line.
* `process` — `async_main` whole: the set-up, then, when it reaches the loop, a run of the loop of
  `Grammers.ForumTopicFilter.Dispatch` with the topics it read.
-/

set_option autoImplicit false

namespace Grammers

variable {S : Schema} {A : Type}

/-- What the world answers `async_main` before its loop.  `A` is the error type of
`Client::connect` and `Client::bot_sign_in`. -/
structure Startup (S : Schema) (A : Type) where
  /-- `env!("TG_ID")`, fixed when the example is built -/
  tgId : String
  /-- `env::args()`, the program's path first -/
  args : List String
  /-- `Session::load_file_or_create(SESSION_FILE)` -/
  session : Except S.IoError Unit
  /-- `Client::connect(config).await` -/
  connect : Except A Unit
  /-- `client.is_authorized().await` -/
  authorized : Except S.InvocationError Bool
  /-- `client.bot_sign_in(&token).await` -/
  signIn : Except A Unit
  /-- `client.session().save_to_file(SESSION_FILE)` after signing in -/
  saved : Except S.IoError Unit

/-- `Box<dyn Error>` as `async_main` fills it: the errors of the loop, and those of `connect`
and `bot_sign_in`. -/
inductive MainError (S : Schema) (A : Type) where
  | box (e : BoxError S)
  | authorization (e : A)

/-- What the set-up does that can be seen from outside. -/
inductive Step (S : Schema) where
  /-- A line printed, or the session file written. -/
  | effect (e : Effect S)
  /-- `Session::load_file_or_create` -/
  | loadSession (path : String)
  /-- `Client::connect`, with the parsed `TG_ID` -/
  | connect (apiId : I32)
  /-- `Client::is_authorized` -/
  | isAuthorized
  /-- `Client::bot_sign_in` -/
  | botSignIn (token : String)

/-- How the set-up ends. -/
inductive SetupEnd (S : Schema) (A : Type) where
  /-- An `expect` failed: the process panics with this message. -/
  | panic (message : String)
  /-- A `?` returned this error from `async_main`. -/
  | error (e : MainError S A)
  /-- The loop starts, with these allowed topics. -/
  | loop (allowedTopics : List I32)

/-- `{:?}` of a `Vec<i32>`. -/
def debugTopics (topics : List I32) : String :=
  "[" ++ ", ".intercalate (topics.map fmtInt) ++ "]"

/-- `async_main` up to its loop. -/
def setup (st : Startup S A) : List (Step S) × SetupEnd S A :=
  match parseI32 st.tgId with
  | .error kind =>
    ([], .panic ("TG_ID invalid: ParseIntError \x7b kind: " ++ kind.debug ++ " \x7d"))
  | .ok apiId =>
  match st.args[1]? with
  | none => ([], .panic "token missing")
  | some token =>
  match allowedTopicsOf st.args with
  | .error message => ([], .panic message)
  | .ok allowedTopics =>
  let connecting := [.effect (.println ("Filtering for topic IDs: " ++ debugTopics allowedTopics)),
    .effect (.println "Connecting to Telegram..."), .loadSession sessionFile]
  match st.session with
  | .error e => (connecting, .error (.box (.io e)))
  | .ok _ =>
  let connecting := connecting ++ [.connect apiId]
  match st.connect with
  | .error e => (connecting, .error (.authorization e))
  | .ok _ =>
  let authorizing := connecting ++ [.effect (.println "Connected!"), .isAuthorized]
  match st.authorized with
  | .error e => (authorizing, .error (.box (.invocation e)))
  | .ok true => (authorizing ++ [.effect (.println "Waiting for messages...")], .loop allowedTopics)
  | .ok false =>
  let signing := authorizing ++ [.effect (.println "Signing in..."), .botSignIn token]
  match st.signIn with
  | .error e => (signing, .error (.authorization e))
  | .ok _ =>
  let saving := signing ++ [.effect (.saveToFile sessionFile)]
  match st.saved with
  | .error e => (saving, .error (.box (.io e)))
  | .ok _ =>
    (saving ++ [.effect (.println "Signed in!"), .effect (.println "Waiting for messages...")],
      .loop allowedTopics)

/-! ## The whole of `async_main` -/

/-- `async_main` whole: the set-up and, when it reaches the loop, a run of the loop with the
topics it read, the final save answering `saved`. -/
def process (st : Startup S A) (saved : Except S.IoError Unit) (scheds : List (Sched S)) :
    List (Step S) × Option (Runtime S) :=
  match (setup st).2 with
  | .loop allowedTopics => ((setup st).1, some (run saved allowedTopics Runtime.init scheds))
  | _ => ((setup st).1, none)

end Grammers
