import Mathlib

/-!
# Outcomes in any state

What a computation with a state can come to, whatever the state: a property of its
results and one of its failures, and how the state after it is related to the one before.

- `Except.Meets`, `Ends`: both properties, of an outcome and of a computation.
- `Ends.bind`, `ends_tryCatch`, `ends_forM`: how they are put together.
- `Along`: what a computation does to the state.
- `Along.bind`, `along_tryCatch`, `along_forM`: how this is put together.
- `along_rest`: what the rest of a computation does to the state.
-/

namespace Attribution

variable {ε σ α β : Type}

/-! ## Running -/

section Running

theorem run_bind (x : ExceptT ε (StateM σ) α) (f : α → ExceptT ε (StateM σ) β) (s : σ) :
    (x >>= f).run.run s =
      match x.run.run s with
      | (.ok a, s') => (f a).run.run s'
      | (.error e, s') => (.error e, s') := by
  show StateT.run (ExceptT.bindCont f (x.run.run s).1) (x.run.run s).2 = _
  cases x.run.run s with
  | mk outcome s' => cases outcome <;> rfl

theorem run_tryCatch (x : ExceptT ε (StateM σ) α) (handler : ε → ExceptT ε (StateM σ) α)
    (s : σ) :
    (tryCatch x handler).run.run s =
      match x.run.run s with
      | (.ok a, s') => (.ok a, s')
      | (.error e, s') => (handler e).run.run s' := by
  show StateT.run (ExceptT.run (ExceptT.tryCatch x handler)) s = _
  unfold ExceptT.tryCatch
  rw [ExceptT.run_mk, StateT.run_bind]
  cases hx : x.run.run s with
  | mk outcome s' =>
    rw [show StateT.run x s = (outcome, s') from hx]
    cases outcome <;> rfl

end Running

/-! ## Outcomes -/

/-- An outcome is a result with one property or a failure with another. -/
def Except.Meets (Q : α → Prop) (E : ε → Prop) : Except ε α → Prop
  | .ok a => Q a
  | .error e => E e

/-- In any state, a computation has a result with one property or a failure with
another. -/
def Ends (x : ExceptT ε (StateM σ) α) (Q : α → Prop) (E : ε → Prop) : Prop :=
  ∀ s, Except.Meets Q E (x.run.run s).1

section Rules

variable {x : ExceptT ε (StateM σ) α} {f : α → ExceptT ε (StateM σ) β} {P Q : α → Prop}
  {R : β → Prop} {E F : ε → Prop}

theorem Ends.ok {s s' : σ} {a : α} (h : Ends x Q E) (hx : x.run.run s = (.ok a, s')) : Q a := by
  have hs := h s
  rw [hx] at hs
  exact hs

theorem Ends.error {s s' : σ} {e : ε} (h : Ends x Q E) (hx : x.run.run s = (.error e, s')) :
    E e := by
  have hs := h s
  rw [hx] at hs
  exact hs

theorem Ends.mono (h : Ends x P E) (hQ : ∀ a, P a → Q a) (hF : ∀ e, E e → F e) : Ends x Q F := by
  intro s
  have hs := h s
  cases hx : (x.run.run s).1 with
  | ok a =>
    rw [hx] at hs
    exact hQ a hs
  | error e =>
    rw [hx] at hs
    exact hF e hs

theorem ends_pure {a : α} (h : Q a) : Ends (pure a : ExceptT ε (StateM σ) α) Q E :=
  fun _ => h

theorem ends_throw {e : ε} (h : E e) : Ends (throw e : ExceptT ε (StateM σ) α) Q E :=
  fun _ => h

theorem ends_get : Ends (get : ExceptT ε (StateM σ) σ) (fun _ => True) E :=
  fun _ => trivial

theorem ends_modify {g : σ → σ} : Ends (modify g : ExceptT ε (StateM σ) Unit) (fun _ => True) E :=
  fun _ => trivial

/-- A computation goes on from the result of another, and fails where either does. -/
theorem Ends.bind (h : Ends x P E) (hf : ∀ a, P a → Ends (f a) R E) : Ends (x >>= f) R E := by
  intro s
  rw [run_bind]
  cases hx : x.run.run s with
  | mk outcome s' =>
    cases outcome with
    | ok a => exact hf a (h.ok hx) s'
    | error e => exact h.error hx

theorem ends_tryCatch {handler : ε → ExceptT ε (StateM σ) α} (h : Ends x Q F)
    (hhandler : ∀ e, F e → Ends (handler e) Q E) : Ends (tryCatch x handler) Q E := by
  intro s
  rw [run_tryCatch]
  cases hx : x.run.run s with
  | mk outcome s' =>
    cases outcome with
    | ok a => exact h.ok hx
    | error e => exact hhandler e (h.error hx) s'

theorem ends_forM {xs : List α} {g : α → ExceptT ε (StateM σ) Unit}
    (h : ∀ a ∈ xs, Ends (g a) (fun _ => True) E) : Ends (xs.forM g) (fun _ => True) E := by
  induction xs with
  | nil => exact ends_pure trivial
  | cons a rest ih =>
    obtain ⟨ha, hrest⟩ := List.forall_mem_cons.mp h
    exact ha.bind fun _ _ => ih hrest

end Rules

/-! ## States -/

/-- A relation holds between the state before a computation and the state after it,
whatever the computation comes to. -/
def Along (x : ExceptT ε (StateM σ) α) (R : σ → σ → Prop) : Prop :=
  ∀ s, R s (x.run.run s).2

section Along

variable {x : ExceptT ε (StateM σ) α} {f : α → ExceptT ε (StateM σ) β} {R R' : σ → σ → Prop}

theorem Along.mono (h : Along x R) (hR : ∀ s s', R s s' → R' s s') : Along x R' :=
  fun s => hR _ _ (h s)

section Refl

variable [Std.Refl R]

theorem along_pure (a : α) : Along (pure a : ExceptT ε (StateM σ) α) R :=
  fun s => Std.Refl.refl s

theorem along_throw (e : ε) : Along (throw e : ExceptT ε (StateM σ) α) R :=
  fun s => Std.Refl.refl s

theorem along_rest (hf : ∀ a, Along (f a) R) (s : σ) :
    R (x.run.run s).2 ((x >>= f).run.run s).2 := by
  rw [run_bind]
  cases x.run.run s with
  | mk outcome s' =>
    cases outcome with
    | ok a => exact hf a s'
    | error e => exact Std.Refl.refl s'

end Refl

section Trans

variable [Trans R R R]

theorem Along.bind (h : Along x R) (hf : ∀ a, Along (f a) R) : Along (x >>= f) R := by
  intro s
  have hs := h s
  rw [run_bind]
  cases hx : x.run.run s with
  | mk outcome s' =>
    rw [hx] at hs
    cases outcome with
    | ok a => exact Trans.trans hs (hf a s')
    | error e => exact hs

theorem along_tryCatch {handler : ε → ExceptT ε (StateM σ) α} (h : Along x R)
    (hhandler : ∀ e, Along (handler e) R) : Along (tryCatch x handler) R := by
  intro s
  have hs := h s
  rw [run_tryCatch]
  cases hx : x.run.run s with
  | mk outcome s' =>
    rw [hx] at hs
    cases outcome with
    | ok a => exact hs
    -- what the failed computation did to the state stays done
    | error e => exact Trans.trans hs (hhandler e s')

theorem along_forM [Std.Refl R] {xs : List α} {g : α → ExceptT ε (StateM σ) Unit}
    (h : ∀ a ∈ xs, Along (g a) R) : Along (xs.forM g) R := by
  induction xs with
  | nil => exact along_pure ()
  | cons a rest ih =>
    obtain ⟨ha, hrest⟩ := List.forall_mem_cons.mp h
    exact ha.bind fun _ => ih hrest

end Trans

end Along

end Attribution
