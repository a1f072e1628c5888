import Attribution.Proofs.Loading.Sources

/-!
# Adding one source

What a step that adds a single source does to the store, whatever the source is and
whatever fails.

- `Rule.ComeIn`: which of some rules come into a store, and how it ends.
- `Datum.rules`, `Loading.Source.rules`: the rules of contents and of a source.
- `Loading.Yields`: what a step comes to, the log left aside.
- `Loading.takesIn_addSource`: the rules of decodable contents come in.
- `Loading.Source.all_or_up_to_nul`: a source that fails has changed nothing, unless
  one of its rules holds a NUL character.
- `Loading.Source.not_all_or_nothing`: such a rule leaves those before it behind.
-/

namespace Attribution

/-! ## Rules that come in -/

/-- Which of some rules come into a store, and how it ends. -/
inductive Rule.ComeIn : List Rule → List Rule → Except Failure Unit → Prop
  /-- All of them, if they are valid. -/
  | all {rs : List Rule} (h : ∀ r ∈ rs, r.IsValid) : ComeIn rs rs (.ok ())
  /-- Those before the first that holds a NUL character; the failure names its field. -/
  | upTo {before after : List Rule} {r : Rule} {f : Field}
      (hbefore : ∀ q ∈ before, q.IsValid) (hnul : r.HasNulIn f) :
      ComeIn (before ++ r :: after) before (.error (.field (.containsNul f)))

theorem Rule.comeIn_nil : ComeIn [] [] (.ok ()) :=
  .all fun _ hr => absurd hr List.not_mem_nil

theorem Rule.ComeIn.eq_of_ok {rs added : List Rule} {u : Unit} (h : ComeIn rs added (.ok u)) :
    added = rs := by
  cases h
  rfl

/-- Rules with a commit email come in as far as they hold no NUL character. -/
theorem Store.addAll_comeIn {rs : List Rule} (hne : ∀ r ∈ rs, r.commitEmail ≠ []) :
    ∃ added outcome, Rule.ComeIn rs added outcome ∧
      ∀ s : Store, s.addAll rs = (s.insertAll added, outcome) := by
  obtain ⟨hbefore, ⟨hall, -⟩ | ⟨r, after, heq, hr⟩⟩ := Addition.takeWhile_isValid rs
  · exact ⟨rs, .ok (), .all hall, fun s => addAll_of_forall hall⟩
  · generalize rs.takeWhile (·.IsValid) = before at hbefore heq
    subst heq
    obtain ⟨f, hnul, hcheck⟩ := Rule.recheck_eq_error (hne r (by simp)) hr
    exact ⟨before, _, .upTo hbefore hnul, fun s => addAll_of_recheck hbefore hcheck⟩

/-- The rules of contents, none if they cannot be decoded. -/
def Datum.rules (contents : Datum) : List Rule :=
  (Document.decode contents).toOption.elim [] Document.rules

theorem Datum.rules_of_decode {contents : Datum} {t : Text}
    (h : Document.decode contents = .ok t) : contents.rules = Document.rules t := by
  rw [rules, h]
  rfl

/-- Contents that cannot be decoded have no rules. -/
theorem Datum.rules_of_error {contents : Datum} {e : Failure}
    (h : Document.decode contents = .error e) : contents.rules = [] := by
  rw [rules, h]
  rfl

namespace Loading

variable {σ α β : Type}

/-! ## Steps without the log -/

/-- What a step comes to where the store is `s` and the repository in the state `ρ`,
whatever was reported before: its outcome, and the store and the state of the
repository after it. -/
def Yields (step : Load σ α) (s : Store) (ρ : σ) (outcome : Except Failure α)
    (s' : Store) (ρ' : σ) : Prop :=
  ∀ log, ∃ log', perform ⟨s, log, ρ⟩ step = (outcome, ⟨s', log', ρ'⟩)

section Yields

variable {step : Load σ α} {f : α → Load σ β} {handler : Failure → Load σ α}
  {s s' s'' : Store} {ρ ρ' ρ'' : σ} {a : α} {e : Failure}

theorem Yields.bind_ok {outcome : Except Failure β} (h : Yields step s ρ (.ok a) s' ρ')
    (hf : Yields (f a) s' ρ' outcome s'' ρ'') :
    Yields (step >>= f) s ρ outcome s'' ρ'' := by
  intro log
  obtain ⟨log', hstep⟩ := h log
  obtain ⟨log'', hnext⟩ := hf log'
  exact ⟨log'', (perform_bind_ok hstep).trans hnext⟩

theorem Yields.bind_error (h : Yields step s ρ (.error e) s' ρ') :
    Yields (step >>= f) s ρ (.error e) s' ρ' := by
  intro log
  obtain ⟨log', hstep⟩ := h log
  exact ⟨log', perform_bind_error hstep⟩

theorem Yields.tryCatch_ok (h : Yields step s ρ (.ok a) s' ρ') :
    Yields (tryCatch step handler) s ρ (.ok a) s' ρ' := by
  intro log
  obtain ⟨log', hstep⟩ := h log
  exact ⟨log', perform_tryCatch_ok hstep⟩

theorem Yields.tryCatch_error {outcome : Except Failure α}
    (h : Yields step s ρ (.error e) s' ρ')
    (hhandler : Yields (handler e) s' ρ' outcome s'' ρ'') :
    Yields (tryCatch step handler) s ρ outcome s'' ρ'' := by
  intro log
  obtain ⟨log', hstep⟩ := h log
  obtain ⟨log'', hnext⟩ := hhandler log'
  exact ⟨log'', (perform_tryCatch_error hstep).trans hnext⟩

theorem yields_pure (a : α) (s : Store) (ρ : σ) :
    Yields (pure a : Load σ α) s ρ (.ok a) s ρ := fun log => ⟨log, rfl⟩

theorem yields_throw (e : Failure) (s : Store) (ρ : σ) :
    Yields (throw e : Load σ α) s ρ (.error e) s ρ := fun log => ⟨log, rfl⟩

theorem yields_report (lines : List LogLine) (s : Store) (ρ : σ) :
    Yields (report lines) s ρ (.ok ()) s ρ :=
  fun log => ⟨log ++ lines, perform_report ⟨s, log, ρ⟩ lines⟩

theorem yields_ask {c : Call σ α} {answer : Except CallFailure α}
    (h : c.run.run ρ = (answer, ρ')) (s : Store) :
    Yields (ask c) s ρ (answer.mapError CallFailure.toFailure) s ρ' := by
  intro log
  refine ⟨log, ?_⟩
  show ((c.run.run ρ).1.mapError CallFailure.toFailure,
    (⟨s, log, (c.run.run ρ).2⟩ : Loading σ)) = _
  rw [h]

end Yields

/-! ## Contents -/

/-- A step takes rules into the store, whatever the state. -/
def TakesIn (step : Load σ Unit) (rs : List Rule) : Prop :=
  ∃ added outcome, Rule.ComeIn rs added outcome ∧
    ∀ s ρ, Yields step s ρ outcome (s.insertAll added) ρ

theorem takesIn_nil {step : Load σ Unit} (h : ∀ s ρ, Yields step s ρ (.ok ()) s ρ) :
    TakesIn step [] :=
  ⟨[], .ok (), Rule.comeIn_nil, h⟩

section Contents

variable {contents : Datum} {t : Text} {e : Failure}

/-- The rules of decoded contents are added, and no more is done. -/
theorem yields_addContents (h : Document.decode contents = .ok t) :
    ∃ added outcome, Rule.ComeIn contents.rules added outcome ∧
      ∀ (s : Store) (ρ : σ), Yields (addContents contents) s ρ
        (outcome.map fun _ => (Document.rules t).length) (s.insertAll added) ρ := by
  have hne : ∀ r ∈ Document.rules t, r.commitEmail ≠ [] := fun r hr =>
    (Document.wellFormed_of_mem_rules hr).commitEmail.nonempty
  obtain ⟨added, outcome, hcome, hadd⟩ := Store.addAll_comeIn hne
  rw [Datum.rules_of_decode h]
  refine ⟨added, outcome, hcome, fun s ρ log => ⟨log ++ Document.complaints t, ?_⟩⟩
  rw [perform_addContents_ok h, hadd]

theorem yields_addContents_error (h : Document.decode contents = .error e) (s : Store)
    (ρ : σ) : Yields (addContents contents) s ρ (.error e) s ρ :=
  fun log => ⟨log, perform_addContents_error h⟩

/-- The rules of decoded contents come in from contents known by a name. -/
theorem takesIn_addBuffer (h : Document.decode contents = .ok t) (source : Text) :
    TakesIn (addBuffer contents source : Load σ Unit) contents.rules := by
  obtain ⟨added, outcome, hcome, hyields⟩ := yields_addContents h
  refine ⟨added, outcome, hcome, fun s ρ => ?_⟩
  cases outcome with
  | ok u => exact (hyields s ρ).bind_ok (yields_report _ _ ρ)
  | error e => exact (hyields s ρ).bind_error

/-- The rules of decoded contents come in from a source of a repository, where only failures to
decode are caught. -/
theorem takesIn_addSource (c : Catalogue) (h : Document.decode contents = .ok t)
    (source : Text) : TakesIn (addSource c contents source : Load σ Unit) contents.rules := by
  obtain ⟨added, outcome, hcome, hyields⟩ := takesIn_addBuffer h source
  refine ⟨added, outcome, hcome, fun s ρ => ?_⟩
  cases outcome with
  | ok u => exact (hyields s ρ).tryCatch_ok
  | error e =>
    obtain ⟨f, rfl⟩ : ∃ f, e = .field (.containsNul f) := by
      generalize contents.rules = rs at hcome
      cases hcome with
      | upTo => exact ⟨_, rfl⟩
    exact (hyields s ρ).tryCatch_error (yields_throw _ _ ρ)

/-- A source of a repository that cannot be decoded is skipped where there are words
to say so. -/
theorem yields_addSource_skipped {c : Catalogue} {cause : ParseFailure} {complaint : Text}
    (h : Document.decode contents = .error (.parse cause))
    (hwords : c.render cause.message = some complaint) (source : Text) (s : Store)
    (ρ : σ) : Yields (addSource c contents source) s ρ (.ok ()) s ρ := by
  have hbuffer : Yields (addBuffer contents source) s ρ (.error (.parse cause)) s ρ :=
    (yields_addContents_error h s ρ).bind_error
  refine hbuffer.tryCatch_error ?_
  simp only [hwords]
  exact yields_report _ s ρ

end Contents

/-! ## Single sources -/

/-- A step offers rules to the store: they come in, or there are none and the store
stays as it is, however the step ends. -/
def Offers (step : Load σ Unit) (rs : List Rule) (ρ : σ) : Prop :=
  ∃ added outcome ρ', (Rule.ComeIn rs added outcome ∨ rs = [] ∧ added = []) ∧
    ∀ s, Yields step s ρ outcome (s.insertAll added) ρ'

theorem TakesIn.offers {step : Load σ Unit} {rs : List Rule} (h : TakesIn step rs) (ρ : σ) :
    Offers step rs ρ := by
  obtain ⟨added, outcome, hcome, hyields⟩ := h
  exact ⟨added, outcome, ρ, .inl hcome, fun s => hyields s ρ⟩

theorem offers_nil {step : Load σ Unit} {outcome : Except Failure Unit} {ρ ρ' : σ}
    (h : ∀ s, Yields step s ρ outcome s ρ') : Offers step [] ρ :=
  ⟨[], outcome, ρ', .inr ⟨rfl, rfl⟩, h⟩

section Offers

variable {contents : Datum}

theorem offers_addContents (contents : Datum) (ρ : σ) :
    Offers (do discard (addContents contents)) contents.rules ρ := by
  cases h : Document.decode contents with
  | ok t =>
    obtain ⟨added, outcome, hcome, hyields⟩ := yields_addContents h
    refine ⟨added, outcome, ρ, .inl hcome, fun s => ?_⟩
    cases outcome with
    | ok u => exact (hyields s ρ).bind_ok (yields_pure () _ ρ)
    | error e => exact (hyields s ρ).bind_error
  | error e =>
    rw [Datum.rules_of_error h]
    exact offers_nil fun s => (yields_addContents_error h s ρ).bind_error

theorem offers_addBuffer (contents : Datum) (source : Text) (ρ : σ) :
    Offers (addBuffer contents source) contents.rules ρ := by
  cases h : Document.decode contents with
  | ok t => exact (takesIn_addBuffer h source).offers ρ
  | error e =>
    rw [Datum.rules_of_error h]
    exact offers_nil fun s => (yields_addContents_error h s ρ).bind_error

/-- Contents of a repository are offered. If they cannot be decoded there are no
rules, whether they are skipped or not. -/
theorem offers_addSource (c : Catalogue) (contents : Datum) (source : Text) (ρ : σ) :
    Offers (addSource c contents source) contents.rules ρ := by
  cases h : Document.decode contents with
  | ok t => exact (takesIn_addSource c h source).offers ρ
  | error e =>
    rw [Datum.rules_of_error h]
    have hbuffer : ∀ s, Yields (addBuffer contents source) s ρ (.error e) s ρ := fun s =>
      (yields_addContents_error h s ρ).bind_error
    cases e with
    | parse cause =>
      cases hwords : c.render cause.message with
      | some complaint => exact offers_nil fun s => yields_addSource_skipped h hwords source s ρ
      | none =>
        have hthrown : ∀ s, Yields (addSource c contents source) s ρ
            (.error (.parse cause)) s ρ := fun s => by
          refine (hbuffer s).tryCatch_error ?_
          simp only [hwords]
          exact yields_throw _ s ρ
        exact offers_nil hthrown
    | _ => exact offers_nil fun s => (hbuffer s).tryCatch_error (yields_throw _ s ρ)

theorem offers_read {h : Host} {name : PathName} {step : Load σ Unit} {ρ : σ}
    (hok : ∀ bytes, h.read name = .ok bytes → Offers step (Datum.bytes bytes).rules ρ)
    (herror : ∀ e, h.read name = .error e → Offers step [] ρ) :
    Offers step (((h.read name).toOption.map .bytes).elim [] Datum.rules) ρ := by
  cases hread : h.read name with
  | ok bytes => exact hok bytes hread
  | error e => exact herror e hread

/-- Contents that a repository is asked for are offered, if there are any. -/
theorem offers_ask {c : Call σ (Option Datum)} {f : Option Datum → Load σ Unit} {ρ : σ}
    (hnone : ∀ ρ', Offers (f none) [] ρ')
    (hsome : ∀ contents ρ', Offers (f (some contents)) contents.rules ρ') :
    Offers (ask c >>= f) ((c.run.run ρ).1.toOption.join.elim [] Datum.rules) ρ := by
  cases hcall : c.run.run ρ with
  | mk answer ρ' =>
    cases answer with
    | error cause => exact offers_nil fun s => (yields_ask hcall s).bind_error
    | ok found =>
      obtain ⟨added, outcome, ρ'', hcome, hyields⟩ :
          Offers (f found) (found.elim [] Datum.rules) ρ' := by
        cases found with
        | none => exact hnone ρ'
        | some contents => exact hsome contents ρ'
      exact ⟨added, outcome, ρ'', hcome, fun s => (yields_ask hcall s).bind_ok (hyields s)⟩

end Offers

namespace Source

/-- A source is single unless it stands for all that is configured for a
repository. -/
def IsSingle : Source σ → Prop
  | repository .. => False
  | _ => True

/-- The contents that a single source gives in a state of the repository, if it gives
any. -/
def contents? : Source σ → σ → Option Datum
  | document contents, _ => some contents
  | buffer contents _, _ => some contents
  | path h name, _ => (h.read name).toOption.map .bytes
  | requiredPath h name, _ => (h.read name).toOption.map .bytes
  | blob _ r spec, ρ => ((r.blob spec).run.run ρ).1.toOption.join
  | file _ r name, ρ => ((r.file name).run.run ρ).1.toOption.join
  | repository .., _ => none

/-- The rules of a single source, none if it gives no contents that can be decoded. -/
def rules (source : Source σ) (ρ : σ) : List Rule :=
  (source.contents? ρ).elim [] Datum.rules

/-- **A single source offers its rules**, and does nothing else to the store. -/
theorem offers_step {source : Source σ} (hsingle : source.IsSingle) (ρ : σ) :
    Offers source.step (source.rules ρ) ρ := by
  cases source with
  | document contents => exact offers_addContents contents ρ
  | buffer contents name => exact offers_addBuffer contents name ρ
  | path h name =>
    refine offers_read (fun bytes hread => ?_) fun e hread => ?_
    · simp only [step, addPath, hread]
      exact offers_addBuffer _ _ ρ
    · simp only [step, addPath, hread]
      split
      · exact offers_nil fun s => yields_report _ s ρ
      · exact offers_nil fun s => yields_throw _ s ρ
  | requiredPath h name =>
    refine offers_read (fun bytes hread => ?_) fun e hread => ?_
    · simp only [step, addRequiredPath, hread]
      exact offers_addContents _ ρ
    · simp only [step, addRequiredPath, hread]
      exact offers_nil fun s => yields_throw _ s ρ
  | blob c r spec =>
    exact offers_ask (fun ρ' => offers_nil fun s => yields_report _ s ρ')
      fun contents ρ' => offers_addSource c contents spec ρ'
  | file c r name =>
    exact offers_ask (fun ρ' => offers_nil fun s => yields_report _ s ρ')
      fun contents ρ' => offers_addSource c contents name ρ'
  | repository c r => exact hsingle.elim

/-- **A failure changes nothing, unless a rule holds a NUL character.** If adding a
single source fails, either no rule read from it holds a NUL character and the store
is what it was; or the failure is that of the first rule that does, it names a field
that holds the character, and exactly the rules before this one have been added. -/
theorem all_or_up_to_nul {source : Source σ} (hsingle : source.IsSingle) {l : Loading σ}
    {e : Failure} (h : (l.perform source.step).1 = .error e) :
    ((∀ r ∈ source.rules l.repository, ∀ f, ¬ r.HasNulIn f) ∧
      (l.perform source.step).2.store = l.store) ∨
    ∃ before r after f, source.rules l.repository = before ++ r :: after ∧
      (∀ q ∈ before, ∀ f', ¬ q.HasNulIn f') ∧ r.HasNulIn f ∧
      e = .field (.containsNul f) ∧
      (l.perform source.step).2.store = l.store.insertAll before := by
  obtain ⟨added, outcome, ρ', hoffered, hyields⟩ := offers_step hsingle l.repository
  obtain ⟨log', hperform⟩ := hyields l.store l.log
  change l.perform source.step = _ at hperform
  rw [hperform] at h ⊢
  generalize source.rules l.repository = rs at hoffered
  rcases hoffered with hcome | ⟨rfl, rfl⟩
  · cases hcome with
    | all => cases h
    | upTo hbefore hnul =>
      cases h
      exact .inr ⟨_, _, _, _, rfl, fun q hq => (hbefore q hq).not_hasNulIn, hnul, rfl, rfl⟩
  · exact .inl ⟨fun r hr => absurd hr List.not_mem_nil, rfl⟩

/-! ### A rule with a NUL character after another -/

/-- Two lines, of which only the second holds a NUL character. -/
def halfValid : Source Unit := .document (.text "A <a>\nB\x00 <b>\n".toList)

theorem perform_halfValid :
    (start ()).perform halfValid.step =
      (.error (.field (.containsNul .properName)),
        { start () with
          store := Store.empty.insertAll [⟨some "A".toList, none, none, "a".toList⟩] }) := by
  have hrules : Document.rules "A <a>\nB\x00 <b>\n".toList =
      [⟨some "A".toList, none, none, "a".toList⟩] ++
        [⟨some "B\x00".toList, none, none, "b".toList⟩] := by decide
  have hadd : (start ()).store.addAll (Document.rules "A <a>\nB\x00 <b>\n".toList) =
      (Store.empty.insertAll [⟨some "A".toList, none, none, "a".toList⟩],
        .error (.field (.containsNul .properName))) := by
    rw [hrules]
    exact Store.addAll_of_recheck (by decide) rfl
  have hcomplaints : Document.complaints "A <a>\nB\x00 <b>\n".toList = [] := by decide
  have hdecode : Document.decode (.text "A <a>\nB\x00 <b>\n".toList) = .ok _ := rfl
  rw [halfValid, step, perform_discard, perform_addContents_ok hdecode, hadd, hcomplaints]
  rfl

/-- The step that adds these lines fails, and the failure tells what it has added. -/
theorem all_or_up_to_nul_halfValid :
    halfValid.IsSingle ∧
      ((start ()).perform halfValid.step).1 = .error (.field (.containsNul .properName)) ∧
      (((∀ r ∈ halfValid.rules (), ∀ f, ¬ r.HasNulIn f) ∧
        ((start ()).perform halfValid.step).2.store = (start ()).store) ∨
      ∃ before r after f, halfValid.rules () = before ++ r :: after ∧
        (∀ q ∈ before, ∀ f', ¬ q.HasNulIn f') ∧ r.HasNulIn f ∧
        Failure.field (.containsNul .properName) = .field (.containsNul f) ∧
        ((start ()).perform halfValid.step).2.store =
          (start ()).store.insertAll before) :=
  have hsingle : halfValid.IsSingle := trivial
  have hfails : ((start ()).perform halfValid.step).1 =
      .error (.field (.containsNul .properName)) := by rw [perform_halfValid]
  ⟨hsingle, hfails, all_or_up_to_nul hsingle hfails⟩

/-- **Adding a source is not all or nothing**: a step that fails can leave the rules
behind that stand before the one that it fails for. -/
theorem not_all_or_nothing :
    ((start ()).perform halfValid.step).1 = .error (.field (.containsNul .properName)) ∧
      (start ()).store.toList = [] ∧
      ((start ()).perform halfValid.step).2.store.toList =
        [⟨some "A".toList, none, none, "a".toList⟩] := by
  rw [perform_halfValid]
  exact ⟨rfl, rfl, Store.toList_insertAll_of_nodup (s := .empty) (by decide)⟩

end Source

end Loading

end Attribution
