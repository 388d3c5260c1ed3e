import EventGateway.Compile.Trace

/-!
# Laws of traces

A trace is opened step by step: what a sequence of steps emits and returns is determined by what its
steps emit and return.  Two notions make this usable for whole passes.  `thin` leaves out emissions
and keeps the result; it is compatible with sequences (`thin_bind`, `thin_mapM`), so a pass can be
compared with a simpler one that emits more or less.  `Emits` bounds what may be emitted.
-/

namespace EventGateway.Trace

variable {α β : Type}

@[simp] theorem emitted_pure (a : α) : (pure a : Trace α).emitted = [] := rfl

@[simp] theorem emitted_emitAll (es : List Emission) : (emitAll es).emitted = es := rfl

@[simp] theorem result_emitAll (es : List Emission) : (emitAll es).result = .ok () := rfl

@[simp] theorem emitted_ofExcept (r : Except Fault α) : (ofExcept r).emitted = [] := rfl

@[simp] theorem result_ofExcept (r : Except Fault α) : (ofExcept r).result = r := rfl

/-! ## Sequences of steps -/

/-- What follows a step that succeeds is added to it. -/
theorem bind_of_ok {t : Trace α} {a : α} (h : t.result = .ok a) (f : α → Trace β) :
    t >>= f = ⟨t.emitted ++ (f a).emitted, (f a).result⟩ := by
  show andThen t f = _
  rw [andThen, h]

/-- Nothing follows a step that fails. -/
theorem bind_of_error {t : Trace α} {fault : Fault} (h : t.result = .error fault)
    (f : α → Trace β) : t >>= f = ⟨t.emitted, .error fault⟩ := by
  show andThen t f = _
  rw [andThen, h]

/-- Changing the result of a trace leaves what it emits. -/
theorem bind_pure_eq (t : Trace α) (g : α → β) :
    (t >>= fun a => pure (g a)) = ⟨t.emitted, t.result.map g⟩ := by
  cases h : t.result with
  | error fault => rw [bind_of_error h]; rfl
  | ok a =>
    rw [bind_of_ok h]
    exact ext (List.append_nil _) rfl

/-- The results of a sequence are a sequence of results. -/
theorem result_bind (t : Trace α) (f : α → Trace β) :
    (t >>= f).result = t.result >>= fun a => (f a).result := by
  cases h : t.result with
  | error fault => rw [bind_of_error h]; rfl
  | ok a => rw [bind_of_ok h]; rfl

/-- A sequence of results without emissions succeeds if both do. -/
theorem except_bind_eq_ok {r : Except Fault α} {f : α → Except Fault β} {b : β} :
    r >>= f = .ok b ↔ ∃ a, r = .ok a ∧ f a = .ok b := by
  cases r with
  | error fault => exact ⟨fun h => (by cases h), fun ⟨_, h, _⟩ => (by cases h)⟩
  | ok a => exact ⟨fun h => ⟨a, rfl, h⟩, fun ⟨_, rfl, h⟩ => h⟩

/-- What can be read off a result shows that it is there. -/
theorem exists_ok_of_toOption {r : Except Fault α} {f : α → β} {b : β}
    (h : r.toOption.map f = some b) : ∃ a, r = .ok a ∧ f a = b := by
  cases r with
  | error fault => cases h
  | ok a => exact ⟨a, rfl, Option.some.inj h⟩

/-- A sequence succeeds if both steps do. -/
theorem result_bind_eq_ok {t : Trace α} {f : α → Trace β} {b : β} :
    (t >>= f).result = .ok b ↔ ∃ a, t.result = .ok a ∧ (f a).result = .ok b := by
  rw [result_bind, except_bind_eq_ok]

/-- A walk depends on its steps alone. -/
theorem mapM_congr {l : List α} {f g : α → Trace β} (h : ∀ a ∈ l, f a = g a) :
    l.mapM f = l.mapM g := by
  induction l with
  | nil => rfl
  | cons a l ih =>
    obtain ⟨head, tail⟩ := List.forall_mem_cons.1 h
    rw [List.mapM_cons, List.mapM_cons, head, ih tail]

/-- A walk succeeds only if every step does. -/
theorem exists_ok_of_mapM {l : List α} {f : α → Trace β} {bs : List β}
    (h : (l.mapM f).result = .ok bs) : ∀ a ∈ l, ∃ b, (f a).result = .ok b := by
  induction l generalizing bs with
  | nil => simp
  | cons a l ih =>
    rw [List.mapM_cons] at h
    obtain ⟨b, hb, h⟩ := result_bind_eq_ok.1 h
    obtain ⟨bs, hbs, -⟩ := result_bind_eq_ok.1 h
    exact List.forall_mem_cons.2 ⟨⟨b, hb⟩, ih hbs⟩

/-- A walk whose steps all succeed emits what they emit, in order. -/
theorem mapM_of_ok {l : List α} {f : α → Trace β} {g : α → β}
    (h : ∀ a ∈ l, (f a).result = .ok (g a)) :
    l.mapM f = ⟨l.flatMap fun a => (f a).emitted, .ok (l.map g)⟩ := by
  induction l with
  | nil => rfl
  | cons a l ih =>
    obtain ⟨head, tail⟩ := List.forall_mem_cons.1 h
    rw [List.mapM_cons, bind_of_ok head, ih tail]
    exact ext (by simp [andThen, bind]) rfl

/-- What a sequence emits, if its first step succeeds. -/
theorem emitted_bind_of_ok {t : Trace α} {a : α} (h : t.result = .ok a) (f : α → Trace β) :
    (t >>= f).emitted = t.emitted ++ (f a).emitted := by
  rw [bind_of_ok h]

/-- A walk that succeeds emits what its steps emit, in order. -/
theorem emitted_mapM_of_ok {l : List α} {f : α → Trace β} {bs : List β}
    (h : (l.mapM f).result = .ok bs) : (l.mapM f).emitted = l.flatMap fun a => (f a).emitted := by
  induction l generalizing bs with
  | nil => rfl
  | cons a l ih =>
    rw [List.mapM_cons] at h ⊢
    obtain ⟨b, hb, h⟩ := result_bind_eq_ok.1 h
    obtain ⟨bs, hbs, -⟩ := result_bind_eq_ok.1 h
    rw [emitted_bind_of_ok hb, bind_pure_eq, ih hbs, List.flatMap_cons]

/-! ## Leaving out emissions -/

/-- The trace without the emissions that `keep` rejects. -/
def thin (keep : Emission → Bool) (t : Trace α) : Trace α :=
  ⟨t.emitted.filter keep, t.result⟩

variable {keep : Emission → Bool}

@[simp] theorem emitted_thin (t : Trace α) : (t.thin keep).emitted = t.emitted.filter keep := rfl

@[simp] theorem result_thin (t : Trace α) : (t.thin keep).result = t.result := rfl

@[simp] theorem thin_pure (a : α) : (pure a : Trace α).thin keep = pure a := rfl

@[simp] theorem thin_ofExcept (r : Except Fault α) : (ofExcept r).thin keep = ofExcept r := rfl

/-- Emissions may be left out step by step. -/
theorem thin_bind (t : Trace α) (f : α → Trace β) :
    (t >>= f).thin keep = t.thin keep >>= fun a => (f a).thin keep := by
  cases h : t.result with
  | error fault =>
    rw [bind_of_error h, bind_of_error (t := t.thin keep) h]
    rfl
  | ok a =>
    rw [bind_of_ok h, bind_of_ok (t := t.thin keep) h]
    exact ext (List.filter_append _ _) rfl

/-- Emissions may be left out of each step of a walk. -/
theorem thin_mapM (l : List α) (f : α → Trace β) :
    (l.mapM f).thin keep = l.mapM fun a => (f a).thin keep := by
  induction l with
  | nil => rfl
  | cons a l ih => simp only [List.mapM_cons, thin_bind, ih, thin_pure]

/-- Nothing is left out if everything is kept. -/
theorem thin_eq_self {t : Trace α} (h : ∀ e ∈ t.emitted, keep e = true) : t.thin keep = t :=
  ext (List.filter_eq_self.2 h) rfl

/-! ## Bounds on what is emitted -/

/-- Everything that is emitted has a property. -/
def Emits (P : Emission → Prop) (t : Trace α) : Prop :=
  ∀ e ∈ t.emitted, P e

variable {P Q : Emission → Prop}

/-- A bound may be widened. -/
theorem Emits.mono {t : Trace α} (h : t.Emits P) (imp : ∀ e, P e → Q e) : t.Emits Q :=
  fun e mem => imp e (h e mem)

theorem emits_pure (a : α) : (pure a : Trace α).Emits P := by
  simp [Emits]

/-- What is emitted at once is bounded item by item. -/
theorem emits_emitAll {es : List Emission} : (emitAll es).Emits P ↔ ∀ e ∈ es, P e := Iff.rfl

theorem emits_ofExcept (r : Except Fault α) : (ofExcept r).Emits P := by
  simp [Emits]

/-- A sequence keeps to a bound if each of its steps does; the second step may use the result of the
first. -/
theorem Emits.bind {t : Trace α} {f : α → Trace β} (h : t.Emits P)
    (h' : ∀ a, t.result = .ok a → (f a).Emits P) : (t >>= f).Emits P := by
  cases hr : t.result with
  | error fault =>
    rw [bind_of_error hr]
    exact h
  | ok a =>
    rw [bind_of_ok hr]
    intro e mem
    rcases List.mem_append.1 mem with mem | mem
    · exact h e mem
    · exact h' a hr e mem

/-- A walk keeps to a bound if each of its steps does. -/
theorem Emits.mapM {l : List α} {f : α → Trace β} (h : ∀ a ∈ l, (f a).Emits P) :
    (l.mapM f).Emits P := by
  induction l with
  | nil => exact emits_pure _
  | cons a l ih =>
    obtain ⟨head, tail⟩ := List.forall_mem_cons.1 h
    rw [List.mapM_cons]
    exact head.bind fun b _ => (ih tail).bind fun bs _ => emits_pure _

end EventGateway.Trace
