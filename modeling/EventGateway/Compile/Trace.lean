import EventGateway.Compile.Context
import EventGateway.Fault

/-!
# Traces

A trace is a computation that emits and may end with a fault.  What has been emitted before a fault
stays emitted.  A computation that also has to look at what others have emitted runs on the context
that takes everything up; again, what it has done before a fault stays done.
-/

namespace EventGateway

/-- Emissions, and a result or a fault. -/
structure Trace (α : Type) where
  emitted : List Emission
  result : Except Fault α

namespace Trace

variable {α β : Type}

theorem ext {t u : Trace α} (h : t.emitted = u.emitted) (h' : t.result = u.result) : t = u := by
  cases t; cases u; cases h; cases h'; rfl

/-- Goes on with the result, unless there is none. -/
def andThen (t : Trace α) (f : α → Trace β) : Trace β :=
  match t.result with
  | .ok a => ⟨t.emitted ++ (f a).emitted, (f a).result⟩
  | .error fault => ⟨t.emitted, .error fault⟩

instance : Monad Trace where
  pure a := ⟨[], .ok a⟩
  bind := andThen

/-- A computation may start by returning something. -/
theorem pure_andThen (a : α) (f : α → Trace β) : andThen (pure a) f = f a := by
  simp [andThen, pure]

/-- A computation may end by returning what it has. -/
theorem andThen_pure (t : Trace α) : andThen t pure = t := by
  obtain ⟨emitted, fault | a⟩ := t <;> simp [andThen, pure]

/-- Three computations in a row, however they are grouped. -/
theorem andThen_assoc {γ : Type} (t : Trace α) (f : α → Trace β) (g : β → Trace γ) :
    andThen (andThen t f) g = andThen t fun a => andThen (f a) g := by
  obtain ⟨emitted, fault | a⟩ := t
  · rfl
  · rcases h : (f a).result with fault | b <;> simp [andThen, h]

instance : LawfulMonad Trace :=
  LawfulMonad.mk' Trace (fun t => andThen_pure t) (fun a f => pure_andThen a f)
    (fun t f g => andThen_assoc t f g)

/-- One emission. -/
def emit (e : Emission) : Trace Unit :=
  ⟨[e], .ok ()⟩

/-- Emissions in order. -/
def emitAll (es : List Emission) : Trace Unit :=
  ⟨es, .ok ()⟩

/-- A result or a fault without emissions. -/
def ofExcept (r : Except Fault α) : Trace α :=
  ⟨[], r⟩

end Trace

/-- A computation on the context of a compilation. -/
abbrev CompileM := ExceptT Fault (StateM Context)

namespace CompileM

variable {α : Type}

/-- The context takes up an emission. -/
def emit (e : Emission) : CompileM Unit :=
  modify fun c => c.absorb e

/-- The context takes up emissions in order. -/
def emitAll (es : List Emission) : CompileM Unit :=
  modify fun c => c.absorbAll es

/-- A result or a fault that leaves the context as it is. -/
def ofExcept (r : Except Fault α) : CompileM α :=
  ExceptT.mk (pure r)

/-- The context takes up what a trace emits. -/
def ofTrace (t : Trace α) : CompileM α := do
  emitAll t.emitted
  ofExcept t.result

/-- The context after a computation, and what the computation returns. -/
def outcome (m : CompileM α) (c : Context) : Context × Except Fault α :=
  (m.run c).swap

end CompileM

end EventGateway
