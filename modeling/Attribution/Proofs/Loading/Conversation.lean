import Attribution.Proofs.Loading.Contents
import Attribution.Repository.Table

/-!
# Conversations with a repository

Loading asks a repository for one thing after the other. What it asks next depends on
the answers so far, so a step is described by its scripts: the conversations that it
holds if nothing goes wrong.

- `Exchange`: a call with its answer, and the rules that it brings.
- `Repository.Holds`: a conversation that a repository holds.
- `RepositoryTable.answers_iff`, `RepositoryTable.fails_iff`: conversations with a table.
- `Loading.Course`: how far a script is followed, and what comes of it.
- `Loading.Follows`: a step that follows its scripts in any state.
- `Loading.Follows.bind`: a step that goes on from another follows on from its script.
- `Loading.follows_ask`, `Loading.follows_fetch`: the scripts of one call.
-/

namespace Attribution

/-! ## Exchanges -/

/-- The answers to a call. -/
def RepositoryCall.Reply : RepositoryCall → Type
  | worktreeMailmap => Option Datum
  | hasWorktree => Bool
  | config _ => Option Text
  | blob _ => Option Datum
  | file _ => Option Datum

instance : (call : RepositoryCall) → Inhabited call.Reply
  | .worktreeMailmap => inferInstanceAs (Inhabited (Option Datum))
  | .hasWorktree => inferInstanceAs (Inhabited Bool)
  | .config _ => inferInstanceAs (Inhabited (Option Text))
  | .blob _ => inferInstanceAs (Inhabited (Option Datum))
  | .file _ => inferInstanceAs (Inhabited (Option Datum))

/-- A call with its answer. -/
structure Exchange where
  call : RepositoryCall
  reply : call.Reply

namespace Exchange

/-- The contents that an exchange brings, if it brings any. -/
def contents? : Exchange → Option Datum
  | ⟨.worktreeMailmap, found⟩ => found
  | ⟨.blob _, found⟩ => found
  | ⟨.file _, found⟩ => found
  | _ => none

/-- The rules that an exchange brings, none if the contents cannot be decoded. -/
def rules (e : Exchange) : List Rule := e.contents?.elim [] Datum.rules

end Exchange

namespace Repository

variable {σ : Type}

/-- The answer to a call. -/
def answer (r : Repository σ) : (call : RepositoryCall) → Call σ call.Reply
  | .worktreeMailmap => r.worktreeMailmap
  | .hasWorktree => r.hasWorktree
  | .config key => r.config key
  | .blob spec => r.blob spec
  | .file path => r.file path

/-- An exchange takes the repository from a state to another. -/
def Answers (r : Repository σ) (ρ : σ) (e : Exchange) (ρ' : σ) : Prop :=
  (r.answer e.call).run.run ρ = (.ok e.reply, ρ')

/-- A call fails and takes the repository from a state to another. -/
def Fails (r : Repository σ) (ρ : σ) (call : RepositoryCall) (cause : CallFailure)
    (ρ' : σ) : Prop :=
  (r.answer call).run.run ρ = (.error cause, ρ')

/-- A repository holds a conversation: each exchange starts where the one before it
ended. -/
inductive Holds (r : Repository σ) : σ → List Exchange → σ → Prop
  | nil (ρ : σ) : Holds r ρ [] ρ
  | cons {e : Exchange} {es : List Exchange} {ρ ρ' ρ'' : σ} (h : r.Answers ρ e ρ')
      (hrest : Holds r ρ' es ρ'') : Holds r ρ (e :: es) ρ''

/-- All contents that a repository answers with have a property. -/
def Delivers (r : Repository σ) (p : Datum → Prop) : Prop :=
  ∀ ⦃ρ e ρ'⦄, r.Answers ρ e ρ' → ∀ d ∈ e.contents?, p d

/-- No call fails. -/
def NeverFails (r : Repository σ) : Prop := ∀ ⦃ρ call cause ρ'⦄, ¬ r.Fails ρ call cause ρ'

/-- The state of a repository keeps the calls made, also those that fail. -/
structure Keeps (r : Repository σ) (calls : σ → List RepositoryCall) : Prop where
  answered : ∀ {ρ e ρ'}, r.Answers ρ e ρ' → calls ρ' = calls ρ ++ [e.call]
  failed : ∀ {ρ call cause ρ'}, r.Fails ρ call cause ρ' → calls ρ' = calls ρ ++ [call]

section Holds

variable {r : Repository σ} {e : Exchange} {es es' : List Exchange} {ρ ρ' ρ'' : σ}

/-- What is delivered has any property that follows from one it has. -/
theorem Delivers.mono {p p' : Datum → Prop} (h : r.Delivers p) (hp : ∀ d, p d → p' d) :
    r.Delivers p' := fun _ _ _ hanswers d hd => hp d (h hanswers d hd)

theorem Answers.holds (h : r.Answers ρ e ρ') : r.Holds ρ [e] ρ' := .cons h (.nil ρ')

theorem Holds.eq_of_nil (h : r.Holds ρ [] ρ') : ρ' = ρ := by
  cases h
  rfl

theorem Holds.append (h : r.Holds ρ es ρ') (h' : r.Holds ρ' es' ρ'') :
    r.Holds ρ (es ++ es') ρ'' := by
  induction h with
  | nil => exact h'
  | cons hfirst _ ih => exact .cons hfirst (ih h')

theorem Holds.forall_contents {p : Datum → Prop} (hp : r.Delivers p)
    (h : r.Holds ρ es ρ') : ∀ e ∈ es, ∀ d ∈ e.contents?, p d := by
  induction h with
  | nil => exact fun e he => absurd he List.not_mem_nil
  | cons hfirst _ ih => exact List.forall_mem_cons.mpr ⟨hp hfirst, ih⟩

theorem Holds.calls {calls : σ → List RepositoryCall} (hcalls : r.Keeps calls)
    (h : r.Holds ρ es ρ') : calls ρ' = calls ρ ++ es.map Exchange.call := by
  induction h with
  | nil => exact (List.append_nil _).symm
  | cons hfirst _ ih =>
    rw [ih, hcalls.answered hfirst, List.append_assoc]
    rfl

end Holds

end Repository

/-! ### Tabulated repositories -/

namespace RepositoryTable

variable {t : RepositoryTable} {calls calls' : List RepositoryCall}

/-- The answer to a call that does not fail. -/
def reply (t : RepositoryTable) : (call : RepositoryCall) → call.Reply
  | .worktreeMailmap => contents? t.worktree
  | .hasWorktree => !t.bare
  | .config key => t.config.lookup key
  | .blob spec => (t.blobs.lookup spec).bind contents?
  | .file path => (t.files.lookup path).bind contents?

theorem run_answer (t : RepositoryTable) (call : RepositoryCall)
    (calls : List RepositoryCall) :
    (t.repository.answer call).run.run calls =
      ((t.failures.lookup call.name).elim (.ok (t.reply call)) .error, calls ++ [call]) := by
  have hanswer : t.repository.answer call = t.answer call (t.reply call) := by
    cases call <;> rfl
  rw [hanswer, answer]
  cases t.failures.lookup call.name <;> rfl

theorem answers_iff {e : Exchange} :
    t.repository.Answers calls e calls' ↔
      t.failures.lookup e.call.name = none ∧ e.reply = t.reply e.call ∧
        calls' = calls ++ [e.call] := by
  rw [Repository.Answers, run_answer]
  cases t.failures.lookup e.call.name with
  | none =>
    constructor
    · intro h
      obtain ⟨hreply, hcalls⟩ := Prod.mk.inj h
      exact ⟨rfl, (Except.ok.inj hreply).symm, hcalls.symm⟩
    · rintro ⟨-, hreply, hcalls⟩
      rw [hreply, hcalls]
      rfl
  | some cause =>
    constructor
    · intro h
      cases (Prod.mk.inj h).1
    · rintro ⟨h, -⟩
      cases h

theorem fails_iff {call : RepositoryCall} {cause : CallFailure} :
    t.repository.Fails calls call cause calls' ↔
      t.failures.lookup call.name = some cause ∧ calls' = calls ++ [call] := by
  rw [Repository.Fails, run_answer]
  cases t.failures.lookup call.name with
  | none =>
    constructor
    · intro h
      cases (Prod.mk.inj h).1
    · rintro ⟨h, -⟩
      cases h
  | some cause' =>
    constructor
    · intro h
      obtain ⟨hcause, hcalls⟩ := Prod.mk.inj h
      exact ⟨congrArg some (Except.error.inj hcause), hcalls.symm⟩
    · rintro ⟨h, hcalls⟩
      rw [hcalls, Option.some.inj h]
      rfl

theorem keeps (t : RepositoryTable) : t.repository.Keeps fun calls => calls where
  answered h := (answers_iff.mp h).2.2
  failed h := (fails_iff.mp h).2

theorem neverFails (h : t.failures = []) : t.repository.NeverFails := by
  intro calls call cause calls' hfails
  have hlookup := (fails_iff.mp hfails).1
  rw [h] at hlookup
  cases hlookup

theorem delivers {p : Datum → Prop} (hworktree : ∀ d ∈ contents? t.worktree, p d)
    (hblobs : ∀ entry ∈ t.blobs, ∀ d ∈ contents? entry.2, p d)
    (hfiles : ∀ entry ∈ t.files, ∀ d ∈ contents? entry.2, p d) : t.repository.Delivers p := by
  have hlookup {entries : List (Text × Datum)} {name : Text} {d : Datum}
      (hentries : ∀ entry ∈ entries, ∀ d ∈ contents? entry.2, p d)
      (hd : d ∈ (entries.lookup name).bind contents?) : p d := by
    obtain ⟨found, hfound, hcontents⟩ := Option.bind_eq_some_iff.mp hd
    obtain ⟨before, after, rfl, -⟩ := List.lookup_eq_some_iff.mp hfound
    exact hentries (name, found) (by simp) d hcontents
  rintro calls ⟨call, reply⟩ calls' hanswers d hd
  obtain rfl : reply = t.reply call := (answers_iff.mp hanswers).2.1
  cases call with
  | worktreeMailmap => exact hworktree d hd
  | hasWorktree => cases hd
  | config key => cases hd
  | blob spec => exact hlookup hblobs hd
  | file path => exact hlookup hfiles hd

end RepositoryTable

namespace Loading

variable {σ α β : Type}

/-! ## Following a script -/

/-- How far a script is followed where the store is `s` and the repository in the state
`ρ`, and what comes of it. The scripts are those that `S` relates to a result. -/
inductive Course (r : Repository σ) (S : α → List Exchange → Prop) (s : Store) (ρ : σ) :
    Except Failure α → Store → σ → Prop
  /-- To its end: all rules that it brings are added. -/
  | through {a : α} {es : List Exchange} {s' : Store} {ρ' : σ} (hscript : S a es)
      (hheld : r.Holds ρ es ρ') (hvalid : ∀ q ∈ es.flatMap Exchange.rules, q.IsValid)
      (hstore : s' = s.insertAll (es.flatMap Exchange.rules)) : Course r S s ρ (.ok a) s' ρ'
  /-- Up to a call that fails: the rules brought before it stay added. -/
  | failed {a : α} {done left : List Exchange} {next : Exchange} {cause : CallFailure}
      {s' : Store} {ρ' ρ'' : σ} (hscript : S a (done ++ next :: left))
      (hheld : r.Holds ρ done ρ') (hfails : r.Fails ρ' next.call cause ρ'')
      (hvalid : ∀ q ∈ done.flatMap Exchange.rules, q.IsValid)
      (hstore : s' = s.insertAll (done.flatMap Exchange.rules)) :
      Course r S s ρ (.error cause.toFailure) s' ρ''
  /-- Up to an exchange that brings a rule with a NUL character: the rules brought
  before this one stay added. -/
  | refused {a : α} {done left : List Exchange} {next : Exchange} {before after : List Rule}
      {q : Rule} {f : Field} {s' : Store} {ρ' : σ} (hscript : S a (done ++ next :: left))
      (hheld : r.Holds ρ (done ++ [next]) ρ') (hrules : next.rules = before ++ q :: after)
      (hvalid : ∀ q ∈ done.flatMap Exchange.rules ++ before, q.IsValid)
      (hnul : q.HasNulIn f)
      (hstore : s' = s.insertAll (done.flatMap Exchange.rules ++ before)) :
      Course r S s ρ (.error (.field (.containsNul f))) s' ρ'

/-- A step follows its scripts, whatever the store and the state of the repository. -/
def Follows (r : Repository σ) (step : Load σ α) (S : α → List Exchange → Prop) : Prop :=
  ∀ s ρ, ∃ outcome s' ρ', Yields step s ρ outcome s' ρ' ∧ Course r S s ρ outcome s' ρ'

section Course

variable {r : Repository σ} {S S' : α → List Exchange → Prop} {s s' s'' : Store}
  {ρ ρ' ρ'' : σ} {outcome : Except Failure α}

theorem Course.exists_script (h : Course r S s ρ outcome s' ρ') : ∃ a es, S a es := by
  cases h with
  | through hscript => exact ⟨_, _, hscript⟩
  | failed hscript => exact ⟨_, _, hscript⟩
  | refused hscript => exact ⟨_, _, hscript⟩

theorem Course.mono (hS : ∀ a es, S a es → S' a es) (h : Course r S s ρ outcome s' ρ') :
    Course r S' s ρ outcome s' ρ' := by
  cases h with
  | through hscript hheld hvalid hstore =>
    exact .through (hS _ _ hscript) hheld hvalid hstore
  | failed hscript hheld hfails hvalid hstore =>
    exact .failed (hS _ _ hscript) hheld hfails hvalid hstore
  | refused hscript hheld hrules hvalid hnul hstore =>
    exact .refused (hS _ _ hscript) hheld hrules hvalid hnul hstore

theorem Course.of_fails {a : α} {first : Exchange} {left : List Exchange}
    {cause : CallFailure} (hscript : S a (first :: left))
    (h : r.Fails ρ first.call cause ρ') : Course r S s ρ (.error cause.toFailure) s ρ' := by
  have hscript' : S a ([] ++ first :: left) := hscript
  exact .failed hscript' (.nil ρ) h (fun _ hq => absurd hq List.not_mem_nil) rfl

/-- A conversation that is over comes before the script that is followed from there. -/
theorem Course.prepend {past : List Exchange} (hpast : r.Holds ρ past ρ')
    (hvalid : ∀ q ∈ past.flatMap Exchange.rules, q.IsValid)
    (hstore : s' = s.insertAll (past.flatMap Exchange.rules))
    (h : Course r (fun a es => S a (past ++ es)) s' ρ' outcome s'' ρ'') :
    Course r S s ρ outcome s'' ρ'' := by
  have hinsert (rs : List Rule) :
      s'.insertAll rs = s.insertAll (past.flatMap Exchange.rules ++ rs) := by
    rw [hstore, Store.insertAll_append]
  cases h with
  | through hscript hheld hvalid' hstore' =>
    refine .through hscript (hpast.append hheld) ?_ ?_
    · rw [List.flatMap_append]
      exact List.forall_mem_append.mpr ⟨hvalid, hvalid'⟩
    · rw [hstore', hinsert, List.flatMap_append]
  | @failed a done left next _ _ _ _ hscript hheld hfails hvalid' hstore' =>
    have hscript' : S a ((past ++ done) ++ next :: left) := by rwa [List.append_assoc]
    refine .failed hscript' (hpast.append hheld) hfails ?_ ?_
    · rw [List.flatMap_append]
      exact List.forall_mem_append.mpr ⟨hvalid, hvalid'⟩
    · rw [hstore', hinsert, List.flatMap_append]
  | @refused a done left next _ _ _ _ _ _ hscript hheld hrules hvalid' hnul hstore' =>
    have hscript' : S a ((past ++ done) ++ next :: left) := by rwa [List.append_assoc]
    refine .refused hscript' ?_ hrules ?_ hnul ?_
    · rw [List.append_assoc]
      exact hpast.append hheld
    · rw [List.flatMap_append, List.append_assoc]
      exact List.forall_mem_append.mpr ⟨hvalid, hvalid'⟩
    · rw [hstore', hinsert, List.flatMap_append, List.append_assoc]

end Course

section Follows

variable {r : Repository σ} {step : Load σ α} {S : α → List Exchange → Prop}

/-- A step whose scripts are of one kind may follow scripts of another. -/
theorem Follows.mono {S' : α → List Exchange → Prop} (h : Follows r step S)
    (hS : ∀ a es, S a es → S' a es) : Follows r step S' := by
  intro s ρ
  obtain ⟨outcome, s', ρ', hyields, hcourse⟩ := h s ρ
  exact ⟨outcome, s', ρ', hyields, hcourse.mono hS⟩

theorem follows_pure {a : α} (h : S a []) : Follows r (pure a) S := fun s ρ =>
  ⟨.ok a, s, ρ, yields_pure a s ρ,
    .through h (.nil ρ) (fun _ hq => absurd hq List.not_mem_nil) rfl⟩

/-- **A step that goes on from another follows on from its script.** -/
theorem Follows.bind {f : α → Load σ β} {T : β → List Exchange → Prop}
    (h : Follows r step S)
    (hf : ∀ a es, S a es → Follows r (f a) fun b es' => T b (es ++ es')) :
    Follows r (step >>= f) T := by
  intro s ρ
  -- where the first step ends early, any script of the second completes its script
  have hcomplete {a : α} {done left : List Exchange} {next : Exchange}
      (hscript : S a (done ++ next :: left)) :
      ∃ b es', T b (done ++ next :: (left ++ es')) := by
    obtain ⟨_, _, _, -, hrest⟩ := hf a _ hscript s ρ
    obtain ⟨b, es', hwhole⟩ := hrest.exists_script
    rw [List.append_assoc, List.cons_append] at hwhole
    exact ⟨b, es', hwhole⟩
  obtain ⟨outcome, s', ρ', hyields, hcourse⟩ := h s ρ
  cases hcourse with
  | through hscript hheld hvalid hstore =>
    obtain ⟨outcome', s'', ρ'', hyields', hcourse'⟩ := hf _ _ hscript s' ρ'
    exact ⟨outcome', s'', ρ'', hyields.bind_ok hyields',
      hcourse'.prepend hheld hvalid hstore⟩
  | failed hscript hheld hfails hvalid hstore =>
    obtain ⟨b, es', hwhole⟩ := hcomplete hscript
    exact ⟨_, s', ρ', hyields.bind_error, .failed hwhole hheld hfails hvalid hstore⟩
  | refused hscript hheld hrules hvalid hnul hstore =>
    obtain ⟨b, es', hwhole⟩ := hcomplete hscript
    exact ⟨_, s', ρ', hyields.bind_error,
      .refused hwhole hheld hrules hvalid hnul hstore⟩

theorem follows_ask (call : RepositoryCall)
    (hrules : ∀ reply, Exchange.rules ⟨call, reply⟩ = []) :
    Follows r (ask (r.answer call)) fun reply es => es = [⟨call, reply⟩] := by
  intro s ρ
  cases hcall : (r.answer call).run.run ρ with
  | mk answer ρ' =>
    cases answer with
    | error cause =>
      have hfails : r.Fails ρ (Exchange.call ⟨call, default⟩) cause ρ' := hcall
      exact ⟨_, s, ρ', yields_ask hcall s, .of_fails rfl hfails⟩
    | ok reply =>
      have hanswers : r.Answers ρ ⟨call, reply⟩ ρ' := hcall
      have hnone : [(⟨call, reply⟩ : Exchange)].flatMap Exchange.rules = [] := by
        rw [List.flatMap_singleton, hrules]
      refine ⟨_, s, ρ', yields_ask hcall s, .through rfl hanswers.holds ?_ ?_⟩
      · rw [hnone]
        exact fun _ hq => absurd hq List.not_mem_nil
      · rw [hnone]
        rfl

/-- A call that brings contents, and a step that takes in the rules of the answer. -/
theorem follows_fetch (call : RepositoryCall) {f : call.Reply → Load σ Unit}
    (hf : ∀ {ρ reply ρ'}, r.Answers ρ ⟨call, reply⟩ ρ' →
      TakesIn (f reply) (Exchange.rules ⟨call, reply⟩)) :
    Follows r (ask (r.answer call) >>= f) fun _ es => ∃ reply, es = [⟨call, reply⟩] := by
  intro s ρ
  cases hcall : (r.answer call).run.run ρ with
  | mk answer ρ' =>
    cases answer with
    | error cause =>
      have hfails : r.Fails ρ (Exchange.call ⟨call, default⟩) cause ρ' := hcall
      exact ⟨_, s, ρ', (yields_ask hcall s).bind_error, .of_fails (a := ()) ⟨default, rfl⟩ hfails⟩
    | ok reply =>
      have hanswers : r.Answers ρ ⟨call, reply⟩ ρ' := hcall
      obtain ⟨added, outcome, hcome, hyields⟩ := hf hanswers
      refine ⟨outcome, s.insertAll added, ρ', (yields_ask hcall s).bind_ok (hyields s ρ'), ?_⟩
      generalize hrules : Exchange.rules ⟨call, reply⟩ = rs at hcome
      have hall : [(⟨call, reply⟩ : Exchange)].flatMap Exchange.rules = rs := by
        rw [List.flatMap_singleton, hrules]
      cases hcome with
      | all hvalid =>
        refine .through ⟨reply, rfl⟩ hanswers.holds ?_ ?_
        · rwa [hall]
        · rw [hall]
      | upTo hbefore hnul =>
        have hscript : ∃ reply', [] ++ (⟨call, reply⟩ : Exchange) :: [] = [⟨call, reply'⟩] :=
          ⟨reply, rfl⟩
        exact .refused (a := ()) hscript hanswers.holds hrules hbefore hnul rfl

end Follows

end Loading

end Attribution
