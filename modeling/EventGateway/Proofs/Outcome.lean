import EventGateway.Compile.Trace

/-!
# Outcomes of computations on a context

A computation on a context is known by its outcome: what it makes of the context, and what it
returns.  The outcome of a sequence is that of its steps in a row (`outcome_bind_of_ok`); a fault
ends the sequence and leaves the context as it is (`outcome_bind_of_error`).
-/

namespace EventGateway

/-- Two results agree: they are the same fault, or they are related. -/
inductive Agree {α β : Type} (R : α → β → Prop) : Except Fault α → Except Fault β → Prop where
  | fault (f : Fault) : Agree R (.error f) (.error f)
  | ok {a : α} {b : β} (h : R a b) : Agree R (.ok a) (.ok b)

namespace Agree

variable {α β : Type}

theorem refl (r : Except Fault α) : Agree Eq r r := by
  cases r with
  | error fault => exact .fault fault
  | ok a => exact .ok rfl

/-- Results that agree on equality are equal. -/
theorem eq {r r' : Except Fault α} (h : Agree Eq r r') : r = r' := by
  cases h with
  | fault fault => rfl
  | ok same => rw [same]

/-- The relation of two results may be weakened. -/
theorem mono {R R' : α → β → Prop} {r : Except Fault α} {r' : Except Fault β} (h : Agree R r r')
    (imp : ∀ a b, R a b → R' a b) : Agree R' r r' := by
  cases h with
  | fault fault => exact .fault fault
  | ok related => exact .ok (imp _ _ related)

end Agree

namespace CompileM

variable {α β : Type} (c : Context)

@[simp] theorem outcome_get : (get : CompileM Context).outcome c = (c, .ok c) := rfl

@[simp] theorem outcome_ofTrace (t : Trace α) :
    (ofTrace t).outcome c = (c.absorbAll t.emitted, t.result) := rfl

variable {c} {c' : Context} {m : CompileM α}

/-- The outcome of a computation is its run with the two parts exchanged. -/
theorem run_of_outcome {result : Except Fault α} (h : m.outcome c = (c', result)) :
    m.run.run c = (result, c') :=
  (Prod.swap_swap (m.run.run c)).symm.trans (congrArg Prod.swap h)

/-- **A sequence goes on** from where its first step has come to, with the result of that step. -/
theorem outcome_bind_of_ok {a : α} (h : m.outcome c = (c', .ok a)) (f : α → CompileM β) :
    (m >>= f).outcome c = (f a).outcome c' := by
  unfold outcome
  show ((m >>= f).run.run c).swap = _
  rw [ExceptT.run_bind, StateT.run_bind, run_of_outcome h]
  rfl

/-- **A fault ends a sequence.** -/
theorem outcome_bind_of_error {fault : Fault} (h : m.outcome c = (c', .error fault))
    (f : α → CompileM β) : (m >>= f).outcome c = (c', .error fault) := by
  unfold outcome
  show ((m >>= f).run.run c).swap = _
  rw [ExceptT.run_bind, StateT.run_bind, run_of_outcome h]
  rfl

end CompileM

end EventGateway
