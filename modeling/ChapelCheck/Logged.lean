import ChapelCheck.Event

/-!
# ChapelCheck.Logged

Results together with the events on the way to them, and with the programs that
were started.  `Logged` is a monad: the events of a sequence of steps are those of
its steps, in order, and so are the starts.  An event may tell of a start, but only
`start` makes one.
-/

namespace ChapelCheck

/-- A result, and what was logged and started before it was there. -/
structure Logged (α : Type) where
  value : α
  log : List Event
  invocations : List Invocation

namespace Logged

variable {α β : Type}

/-- A result that nothing is logged or started for. -/
protected def pure (a : α) : Logged α := ⟨a, [], []⟩

/-- Goes on with a result. -/
protected def bind (x : Logged α) (f : α → Logged β) : Logged β :=
  ⟨(f x.value).value, x.log ++ (f x.value).log, x.invocations ++ (f x.value).invocations⟩

instance : Monad Logged where
  pure := Logged.pure
  bind := Logged.bind

/-- Logs one event. -/
def tell (e : Event) : Logged Unit := ⟨(), [e], []⟩

/-- Logs several events. -/
def tellAll (es : List Event) : Logged Unit := ⟨(), es, []⟩

/-- Starts a program, given what comes of the programs that are started. -/
def start (outcome : Invocation → α) (i : Invocation) : Logged α := ⟨outcome i, [], [i]⟩

@[simp] theorem value_pure (a : α) : (pure a : Logged α).value = a := rfl

@[simp] theorem log_pure (a : α) : (pure a : Logged α).log = [] := rfl

@[simp] theorem value_bind (x : Logged α) (f : α → Logged β) :
    (x >>= f).value = (f x.value).value := rfl

@[simp] theorem log_bind (x : Logged α) (f : α → Logged β) :
    (x >>= f).log = x.log ++ (f x.value).log := rfl

@[simp] theorem invocations_pure (a : α) : (pure a : Logged α).invocations = [] := rfl

@[simp] theorem invocations_bind (x : Logged α) (f : α → Logged β) :
    (x >>= f).invocations = x.invocations ++ (f x.value).invocations := rfl

@[simp] theorem log_tellAll (es : List Event) : (tellAll es).log = es := rfl

@[simp] theorem invocations_tell (e : Event) : (tell e).invocations = [] := rfl

@[simp] theorem invocations_tellAll (es : List Event) : (tellAll es).invocations = [] := rfl

@[simp] theorem value_start (outcome : Invocation → α) (i : Invocation) :
    (start outcome i).value = outcome i := rfl

@[simp] theorem invocations_start (outcome : Invocation → α) (i : Invocation) :
    (start outcome i).invocations = [i] := rfl

end Logged

end ChapelCheck
