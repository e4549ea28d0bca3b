/-!
# Computations with a trace

A computation that may fail and leaves a trace of what happened on the way.  The trace of a
failed computation is kept: everything up to the failure has happened.
-/

namespace ColonForth

/-- The trace of a computation, oldest event first, and how it ended. -/
structure Traced (ω ε α : Type) where
  /-- What happened, in order. -/
  trace : List ω
  /-- The result, or why there is none. -/
  outcome : Except ε α

namespace Traced

variable {ω ε α β : Type}

/-- The computation that does nothing and returns a value. -/
def done (a : α) : Traced ω ε α := ⟨[], .ok a⟩

/-- The computation that fails at once. -/
def fail (e : ε) : Traced ω ε α := ⟨[], .error e⟩

/-- The computation that adds one event to the trace. -/
def note (w : ω) : Traced ω ε Unit := ⟨[w], .ok ()⟩

/-- A result or an error without a trace. -/
def ofExcept (r : Except ε α) : Traced ω ε α := ⟨[], r⟩

/-- One computation after the other; a failure of the first ends both. -/
def andThen (x : Traced ω ε α) (f : α → Traced ω ε β) : Traced ω ε β :=
  match x.outcome with
  | .error e => ⟨x.trace, .error e⟩
  | .ok a =>
    let y := f a
    ⟨x.trace ++ y.trace, y.outcome⟩

/-- The computation with further events added at its end if it fails, according to the
error. -/
def onFailure (x : Traced ω ε α) (events : ε → List ω) : Traced ω ε α :=
  match x.outcome with
  | .error e => ⟨x.trace ++ events e, .error e⟩
  | .ok _ => x

instance : Monad (Traced ω ε) where
  pure := done
  bind := andThen

@[simp] theorem andThen_done (a : α) (f : α → Traced ω ε β) : andThen (done a) f = f a := rfl

@[simp] theorem andThen_fail (e : ε) (f : α → Traced ω ε β) :
    andThen (fail e : Traced ω ε α) f = fail e := rfl

end Traced

end ColonForth
