import Agenda.Search.Select

/-! # The task store

A list of tasks and the day on which they are looked at, changed one step at a time: tasks are
added, done, edited and searched, and days pass. A step that is refused leaves the list as it was.
-/

namespace Agenda

/-- The stored tasks and the day they are looked at. -/
structure Store where
  today : Date
  tasks : List Task := []
  deriving Repr, DecidableEq

/-- One step of working with the store. -/
inductive Step
  | setToday (date : Date)
  | add (task : Task)
  | done (index : Nat)
  | edit (index : Nat) (task : Task)
  | search (query : Option Query) (limit : Nat)
  deriving Repr, DecidableEq

/-- What a step reports. -/
inductive Reply
  | none
  /-- The task that was added. -/
  | added (task : Task)
  /-- Why a task was not added, and the task as it stood then. -/
  | notAdded (error : Error) (task : Task)
  /-- What became of a task that was done, and the task after it. -/
  | completed (completion : Completion) (task : Task)
  | found (tasks : List Task)
  | refused (error : Error)
  /-- No task has the index. -/
  | noSuchTask
  deriving Repr, DecidableEq

namespace Store

/-- The store after a completion of the task at an index. -/
def complete (store : Store) (index : Nat) (task : Task) : Completion → Store
  | .delete => { store with tasks := store.tasks.eraseIdx index }
  | .reschedule date =>
    { store with tasks := store.tasks.set index (task.apply (.reschedule date)) }

def step (store : Store) : Step → Store × Reply
  | .setToday date => ({ store with today := date }, .none)
  | .add task =>
    match task.normalize store.today with
    | (.ok (), settled) => ({ store with tasks := store.tasks ++ [settled] }, .added settled)
    | (.error error, task) => (store, .notAdded error task)
  | .done index =>
    match store.tasks[index]? with
    | some task =>
      match task.complete store.today with
      | .ok completion =>
        (store.complete index task completion, .completed completion (task.apply completion))
      | .error error => (store, .refused error)
    | none => (store, .noSuchTask)
  | .edit index task =>
    match store.tasks[index]? with
    | some _ =>
      match task.validateUpdate store.today with
      | .ok () => ({ store with tasks := store.tasks.set index task }, .none)
      | .error error => (store, .refused error)
    | none => (store, .noSuchTask)
  | .search query limit => (store, .found (select store.tasks query limit))

def run (store : Store) : List Step → Store × List Reply
  | [] => (store, [])
  | step :: rest =>
    let (next, reply) := store.step step
    let (final, replies) := next.run rest
    (final, reply :: replies)

end Store

end Agenda
