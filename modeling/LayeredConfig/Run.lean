import LayeredConfig.Log.Notice

/-!
# Runs

What an operation on sources does besides its answer: it reports, and it reads. A `Run` holds both in order, with
the answer at the end. Runs compose; the first failure ends the rest.
-/

namespace LayeredConfig

/-- Something that is done on the way. -/
inductive Act
  | report (n : Log.Notice)
  | read (identifier : Text)
  deriving DecidableEq

/-- What was done, and the answer. -/
structure Run (α : Type) where
  acts : List Act
  result : Except Failure α

namespace Run

def pure {α : Type} (a : α) : Run α := ⟨[], .ok a⟩

def fail {α : Type} (e : Failure) : Run α := ⟨[], .error e⟩

/-- A run and, if it succeeds, one that goes on with its answer. -/
def bind {α β : Type} (r : Run α) (f : α → Run β) : Run β :=
  match r.result with
  | .error e => ⟨r.acts, .error e⟩
  | .ok a =>
    let next := f a
    ⟨r.acts ++ next.acts, next.result⟩

instance : Monad Run where
  pure := Run.pure
  bind := Run.bind

def report (notices : List Log.Notice) : Run Unit := ⟨notices.map .report, .ok ()⟩

def ofExcept {α : Type} (r : Except Failure α) : Run α := ⟨[], r⟩

def notices {α : Type} (r : Run α) : List Log.Notice :=
  r.acts.filterMap fun
    | .report n => some n
    | .read _ => none

def reads {α : Type} (r : Run α) : List Text :=
  r.acts.filterMap fun
    | .report _ => none
    | .read identifier => some identifier

end Run

end LayeredConfig
