import Attribution.Loader
import Attribution.Proofs.Outcomes
import Attribution.Proofs.Store.Insert

/-!
# Performing steps of loading

What a step of loading comes to in a given state, one equation for each way to
make a step.

- `Loading.perform`: the outcome of a step and the state after it.
- `Loading.performAll`: the state after several steps, where a step that fails
  does not stop the next.
- `Loading.perform_addContents_ok`, `Loading.perform_addContents_error`: what a
  document comes to.
-/

namespace Attribution.Loading

variable {σ α β : Type}

/-- What a step comes to in a state: its outcome, and the state after it. -/
def perform (l : Loading σ) (step : Load σ α) : Except Failure α × Loading σ :=
  step.run.run l

/-- The state after steps taken one after the other. What a failed step did stays
done, and the next step is taken all the same. -/
def performAll (l : Loading σ) (steps : List (Load σ α)) : Loading σ :=
  steps.foldl (fun l step => (l.perform step).2) l

/-! ## One equation for each way to make a step -/

theorem perform_report (l : Loading σ) (lines : List LogLine) :
    l.perform (report lines) = (.ok (), { l with log := l.log ++ lines }) := rfl

/-- Rules go into the store up to the first that fails. -/
theorem perform_addRules (l : Loading σ) (rs : List Rule) :
    l.perform (addRules rs) =
      ((l.store.addAll rs).2, { l with store := (l.store.addAll rs).1 }) := rfl

theorem perform_ask (l : Loading σ) (c : Call σ α) :
    l.perform (ask c) =
      ((c.run.run l.repository).1.mapError CallFailure.toFailure,
        { l with repository := (c.run.run l.repository).2 }) := rfl

/-- A step goes on from where a first step ended, unless this failed. -/
theorem perform_bind (l : Loading σ) (step : Load σ α) (f : α → Load σ β) :
    l.perform (step >>= f) =
      match l.perform step with
      | (.ok a, l') => l'.perform (f a)
      | (.error e, l') => (.error e, l') := by
  show (step >>= f).run.run l = _
  rw [run_bind, perform]
  cases step.run.run l with
  | mk outcome l' => cases outcome <;> rfl

theorem perform_bind_ok {l l' : Loading σ} {step : Load σ α} {f : α → Load σ β}
    {a : α} (h : l.perform step = (.ok a, l')) :
    l.perform (step >>= f) = l'.perform (f a) := by
  rw [perform_bind, h]

theorem perform_bind_error {l l' : Loading σ} {step : Load σ α}
    {f : α → Load σ β} {e : Failure} (h : l.perform step = (.error e, l')) :
    l.perform (step >>= f) = (.error e, l') := by
  rw [perform_bind, h]

theorem perform_bind_eq_ok_iff {l l' : Loading σ} {step : Load σ α} {f : α → Load σ β} {b : β} :
    l.perform (step >>= f) = (.ok b, l') ↔
      ∃ a l₁, l.perform step = (.ok a, l₁) ∧ l₁.perform (f a) = (.ok b, l') := by
  cases hstep : l.perform step with
  | mk outcome l₁ =>
    cases outcome with
    | error e =>
      rw [perform_bind_error hstep]
      constructor
      · intro h
        cases h
      · rintro ⟨a, l₁', h, -⟩
        cases h
    | ok a =>
      rw [perform_bind_ok hstep]
      constructor
      · intro h
        exact ⟨a, l₁, rfl, h⟩
      · rintro ⟨a', l₁', h, hf⟩
        cases h
        exact hf

theorem perform_attempt_ok {r : Except Failure α} {a : α} (h : r = .ok a) (l : Loading σ)
    (f : α → Load σ β) : l.perform (attempt r >>= f) = l.perform (f a) := by
  rw [h]
  exact perform_bind_ok rfl

theorem perform_attempt_error {r : Except Failure α} {e : Failure} (h : r = .error e)
    (l : Loading σ) (f : α → Load σ β) :
    l.perform (attempt r >>= f) = (.error e, l) := by
  rw [h]
  exact perform_bind_error rfl

theorem perform_discard (l : Loading σ) (step : Load σ α) :
    l.perform (discard step) =
      ((l.perform step).1.map fun _ => (), (l.perform step).2) := by
  have hbind : (discard step : Load σ Unit) = step >>= fun _ => pure () := rfl
  rw [hbind]
  cases h : l.perform step with
  | mk outcome l' =>
    cases outcome with
    | ok a => exact perform_bind_ok h
    | error e => exact perform_bind_error h

theorem perform_tryCatch (l : Loading σ) (step : Load σ α) (handler : Failure → Load σ α) :
    l.perform (tryCatch step handler) =
      match l.perform step with
      | (.ok a, l') => (.ok a, l')
      | (.error e, l') => l'.perform (handler e) := by
  show (tryCatch step handler).run.run l = _
  rw [run_tryCatch, perform]
  cases step.run.run l with
  | mk outcome l' => cases outcome <;> rfl

theorem perform_tryCatch_ok {l l' : Loading σ} {step : Load σ α}
    {handler : Failure → Load σ α} {a : α} (h : l.perform step = (.ok a, l')) :
    l.perform (tryCatch step handler) = (.ok a, l') := by
  rw [perform_tryCatch, h]

theorem perform_tryCatch_error {l l' : Loading σ} {step : Load σ α}
    {handler : Failure → Load σ α} {e : Failure}
    (h : l.perform step = (.error e, l')) :
    l.perform (tryCatch step handler) = l'.perform (handler e) := by
  rw [perform_tryCatch, h]

/-- A step taken with an empty store gives the store that it fills. -/
theorem perform_freshly (l : Loading σ) (step : Load σ Unit) :
    l.perform (freshly step) =
      (({ l with store := .empty }.perform step).1.map fun _ =>
          ({ l with store := .empty }.perform step).2.store,
        { ({ l with store := .empty }.perform step).2 with store := l.store }) := rfl

/-! ## Adding rules and documents -/

theorem perform_addFields_ok {l : Loading σ} {fields : List Datum} {r : Rule}
    (h : Rule.ofFields fields = .ok r) :
    l.perform (addFields fields) =
      (.ok (), { l with store := l.store.insert r }) :=
  perform_attempt_ok h l _

theorem perform_addFields_error {l : Loading σ} {fields : List Datum} {e : Failure}
    (h : Rule.ofFields fields = .error e) :
    l.perform (addFields fields) = (.error e, l) :=
  perform_attempt_error h l _

/-- Contents that cannot be decoded change nothing. -/
theorem perform_addContents_error {l : Loading σ} {contents : Datum} {e : Failure}
    (h : Document.decode contents = .error e) :
    l.perform (addContents contents) = (.error e, l) :=
  perform_attempt_error h l _

/-- Decoded contents are reported on, and their rules go into the store up to the
first that fails. -/
theorem perform_addContents_ok {l : Loading σ} {contents : Datum} {t : Text}
    (h : Document.decode contents = .ok t) :
    l.perform (addContents contents) =
      ((l.store.addAll (Document.rules t)).2.map fun _ => (Document.rules t).length,
        { l with
          store := (l.store.addAll (Document.rules t)).1
          log := l.log ++ Document.complaints t }) := by
  unfold addContents
  rw [perform_attempt_ok h, perform_bind_ok (perform_report l (Document.complaints t))]
  cases hadd : l.store.addAll (Document.rules t) with
  | mk store outcome =>
    have hrules : ({ l with log := l.log ++ Document.complaints t } : Loading σ).perform
        (addRules (Document.rules t)) =
          (outcome, { l with store, log := l.log ++ Document.complaints t }) := by
      rw [perform_addRules, hadd]
    cases outcome with
    | ok u => exact perform_bind_ok hrules
    | error e => exact perform_bind_error hrules

end Attribution.Loading
