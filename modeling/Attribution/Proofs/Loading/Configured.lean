import Attribution.Proofs.Loading.Conversation
import Attribution.Proofs.Rule.Says

/-!
# Loading what is configured for a repository

The sources of a repository are asked for one after the other. The load ends early for
two reasons only: a call fails, or a rule holds a NUL character.

- `Datum.NulFree`: contents without a NUL character.
- `Replies.script`: the calls to make, given what they are answered with.
- `Loading.follows_addRepository`: loading follows this script.
- `Loading.addRepository_course`: the calls made, the store and the outcome, for
  contents without a NUL character and whatever calls fail.
- `Loading.addRepository_stops_only_at_nul`: if no call fails, only a NUL character
  ends the load.
-/

namespace Attribution

/-! ## Contents -/

/-- There is no NUL character in the text that contents spell. -/
def Datum.NulFree (d : Datum) : Prop := ∀ t, d.Spells t → '\x00' ∉ t

theorem Datum.NulFree.not_hasNulIn {d : Datum} (h : d.NulFree) :
    ∀ q ∈ d.rules, ∀ f, ¬ q.HasNulIn f := by
  rintro q hq f ⟨u, hu, hnul⟩
  cases hdecode : Document.decode d with
  | error e =>
    rw [Datum.rules_of_error hdecode] at hq
    exact absurd hq List.not_mem_nil
  | ok t =>
    rw [Datum.rules_of_decode hdecode] at hq
    exact h t (Document.decode_eq_ok_iff.mp hdecode) (Document.subset_of_mem_rules hq hu hnul)

/-- No rule that a conversation brings holds a NUL character if no contents do. -/
theorem Repository.Holds.not_hasNulIn {σ : Type} {r : Repository σ} {es : List Exchange}
    {ρ ρ' : σ} (hr : r.Delivers Datum.NulFree) (h : r.Holds ρ es ρ') :
    ∀ e ∈ es, ∀ q ∈ e.rules, ∀ f, ¬ q.HasNulIn f := by
  intro e he q hq
  have hfree := h.forall_contents hr e he
  rw [Exchange.rules] at hq
  cases hcontents : e.contents? with
  | none =>
    rw [hcontents] at hq
    exact absurd hq List.not_mem_nil
  | some d =>
    rw [hcontents] at hq
    exact (hfree d hcontents).not_hasNulIn q hq

theorem Repository.Holds.not_hasNulIn_of_last {σ : Type} {r : Repository σ}
    {done : List Exchange} {last : Exchange} {before after : List Rule} {q : Rule} {f : Field}
    {ρ ρ' : σ} (hr : r.Delivers Datum.NulFree) (h : r.Holds ρ (done ++ [last]) ρ')
    (hrules : last.rules = before ++ q :: after) : ¬ q.HasNulIn f := by
  refine h.not_hasNulIn hr last (by simp) q ?_ f
  rw [hrules]
  exact List.mem_append_right before (List.mem_cons_self ..)

/-! ## Failed calls -/

namespace CallFailure

/-- What a user gets to see of a failed call: what the repository reports itself, in its
own words; that it cannot be read, for a fault of the host; or misuse. -/
def surfaced : CallFailure → Report
  | access cause => .ofMessage .plain .access cause.message
  | host cause => .condition .access ("Cannot read repository: ".toList ++ cause.message)
  | misuse cause => .misuse cause

theorem report_toFailure (cause : CallFailure) :
    cause.toFailure.report .plain = cause.surfaced := by
  cases cause with
  | access cause => rfl
  | misuse cause => rfl
  | host cause =>
    have hrender : Catalogue.plain.render (AccessFailure.repository cause).message =
        some ("Cannot read repository: ".toList ++ (cause.message ++ [])) := rfl
    rw [List.append_nil] at hrender
    simp only [toFailure, Failure.report, Report.ofMessage, hrender, surfaced]

end CallFailure

/-! ## The script -/

/-- What the calls for a repository's sources are answered with: the mailmap at the top
of the working tree, the configured blob, whether there is a working tree, the contents
of the blob, the configured file and its contents. -/
structure Replies where
  worktree : Option Datum
  blobName : Option Text
  hasWorktree : Bool
  blob : Option Datum
  fileName : Option Text
  file : Option Datum

/-- The exchange about what has a name, if the name is there and not empty. -/
def Exchange.named (name : Option Text) (e : Text → Exchange) : List Exchange :=
  match name with
  | some (first :: rest) => [e (first :: rest)]
  | _ => []

namespace Replies

/-- The name of the blob: the configured one, else the default if there is no working
tree. -/
def chosenBlob (a : Replies) : Option Text :=
  match a.blobName with
  | some spec => some spec
  | none => if a.hasWorktree then none else some Loading.defaultBlob

/-- The exchanges by which the blob is chosen: whether there is a working tree is asked
only if none is configured. -/
def choice (a : Replies) : List Exchange :=
  ⟨.config Loading.blobKey, a.blobName⟩ ::
    if a.blobName = none then [⟨.hasWorktree, a.hasWorktree⟩] else []

/-- The exchanges about the blob. -/
def blobScript (a : Replies) : List Exchange :=
  a.choice ++ Exchange.named a.chosenBlob fun spec => ⟨.blob spec, a.blob⟩

/-- The exchanges about the file. -/
def fileScript (a : Replies) : List Exchange :=
  ⟨.config Loading.fileKey, a.fileName⟩ ::
    Exchange.named a.fileName fun path => ⟨.file path, a.file⟩

/-- All exchanges about a repository's sources, in their order. -/
def script (a : Replies) : List Exchange :=
  ⟨.worktreeMailmap, a.worktree⟩ :: (a.blobScript ++ a.fileScript)

end Replies

namespace Loading

variable {σ : Type} {r : Repository σ}

/-! ## Loading follows the script -/

theorem takesIn_addSource_plain {contents : Datum} (h : contents.IsContents)
    (source : Text) :
    TakesIn (addSource .plain contents source : Load σ Unit) contents.rules := by
  rcases h.decode with ⟨t, hdecode⟩ | ⟨cause, hdecode⟩
  · exact takesIn_addSource .plain hdecode source
  · rw [Datum.rules_of_error hdecode]
    obtain ⟨complaint, hwords⟩ : ∃ complaint, Catalogue.plain.render
        (ParseFailure.undecodableMailmap cause).message = some complaint := ⟨_, rfl⟩
    exact takesIn_nil (yields_addSource_skipped hdecode hwords source)

theorem follows_addWorktree (hr : r.Delivers Datum.IsContents) :
    Follows r (addWorktree .plain r) fun _ es => ∃ found, es = [⟨.worktreeMailmap, found⟩] := by
  refine follows_fetch .worktreeMailmap fun {ρ found ρ'} hanswers => ?_
  have hfound := hr hanswers
  cases found with
  | none => exact takesIn_nil (yields_pure ())
  | some contents => exact takesIn_addSource_plain (hfound contents rfl) worktreeSource

theorem follows_addBlob (hr : r.Delivers Datum.IsContents) (spec : Text) :
    Follows r (addBlob .plain r spec) fun _ es => ∃ found, es = [⟨.blob spec, found⟩] := by
  refine follows_fetch (.blob spec) fun {ρ found ρ'} hanswers => ?_
  have hfound := hr hanswers
  cases found with
  | none => exact takesIn_nil (yields_report _)
  | some contents => exact takesIn_addSource_plain (hfound contents rfl) spec

theorem follows_addFile (hr : r.Delivers Datum.IsContents) (path : Text) :
    Follows r (addFile .plain r path) fun _ es => ∃ found, es = [⟨.file path, found⟩] := by
  refine follows_fetch (.file path) fun {ρ found ρ'} hanswers => ?_
  have hfound := hr hanswers
  cases found with
  | none => exact takesIn_nil (yields_report _)
  | some contents => exact takesIn_addSource_plain (hfound contents rfl) path

theorem follows_chosenBlob :
    Follows r (chosenBlob r) fun spec es =>
      ∃ a : Replies, es = a.choice ∧ spec = a.chosenBlob := by
  refine (follows_ask (.config blobKey) fun _ => rfl).bind ?_
  rintro name _ rfl
  -- a name that is configured ends the choice, so the other answers can be anything
  cases name with
  | some spec => exact follows_pure ⟨⟨none, some spec, default, none, none, none⟩, rfl, rfl⟩
  | none =>
    refine (follows_ask .hasWorktree fun _ => rfl).bind ?_
    rintro hasWorktree _ rfl
    exact follows_pure ⟨⟨none, none, hasWorktree, none, none, none⟩, rfl, rfl⟩

/-- The chosen blob is asked for and taken in, if there is one. -/
theorem follows_addChosenBlob (hr : r.Delivers Datum.IsContents) :
    Follows r (addChosenBlob .plain r) fun _ es => ∃ a : Replies, es = a.blobScript := by
  refine follows_chosenBlob.bind ?_
  rintro spec _ ⟨a, rfl, hspec⟩
  rcases spec with - | (- | ⟨first, rest⟩)
  · exact follows_pure ⟨a, by rw [Replies.blobScript, ← hspec]; rfl⟩
  · exact follows_pure ⟨a, by rw [Replies.blobScript, ← hspec]; rfl⟩
  · refine (follows_addBlob hr (first :: rest)).mono ?_
    rintro _ _ ⟨found, rfl⟩
    refine ⟨{ a with blob := found }, ?_⟩
    -- the choice does not depend on what the blob turns out to be
    have hchosen : Replies.chosenBlob { a with blob := found } = some (first :: rest) := hspec.symm
    rw [Replies.blobScript, hchosen]
    rfl

/-- The configured file is asked for and taken in, if there is one. -/
theorem follows_addConfiguredFile (hr : r.Delivers Datum.IsContents) :
    Follows r (addConfiguredFile .plain r) fun _ es => ∃ a : Replies, es = a.fileScript := by
  refine (follows_ask (.config fileKey) fun _ => rfl).bind ?_
  rintro name _ rfl
  rcases name with - | (- | ⟨first, rest⟩)
  · exact follows_pure ⟨⟨none, none, default, none, none, none⟩, rfl⟩
  · exact follows_pure ⟨⟨none, none, default, none, some [], none⟩, rfl⟩
  · refine (follows_addFile hr (first :: rest)).mono ?_
    rintro _ _ ⟨found, rfl⟩
    exact ⟨⟨none, none, default, none, some (first :: rest), found⟩, rfl⟩

/-- **Loading what is configured for a repository follows its script.** -/
theorem follows_addRepository (hr : r.Delivers Datum.IsContents) :
    Follows r (addRepository .plain r) fun _ es => ∃ a : Replies, es = a.script := by
  refine (follows_addWorktree hr).bind ?_
  rintro _ _ ⟨found, rfl⟩
  refine (follows_addChosenBlob hr).bind ?_
  rintro _ _ ⟨b, rfl⟩
  refine (follows_addConfiguredFile hr).mono ?_
  rintro _ _ ⟨c, rfl⟩
  exact ⟨⟨found, b.blobName, b.hasWorktree, b.blob, c.fileName, c.file⟩, rfl⟩

example : (Replies.script ⟨none, none, false, none, some "extra".toList, none⟩).map
    Exchange.call = [.worktreeMailmap, .config blobKey, .hasWorktree, .blob defaultBlob,
      .config fileKey, .file "extra".toList] := rfl

theorem perform_addRepository (hr : r.Delivers Datum.IsContents) (l : Loading σ) :
    ∃ outcome s' log' ρ', l.perform (addRepository .plain r) = (outcome, ⟨s', log', ρ'⟩) ∧
      Course r (fun _ es => ∃ a : Replies, es = a.script) l.store l.repository outcome s' ρ' := by
  obtain ⟨outcome, s', ρ', hyields, hcourse⟩ := follows_addRepository hr l.store l.repository
  obtain ⟨log', hperform⟩ := hyields l.log
  exact ⟨outcome, s', log', ρ', hperform, hcourse⟩

/-! ## Whatever calls fail -/

/-- **The course of a load.** A repository of which the contents are text or bytes
without a NUL character is asked for its sources in the order of the script, up to the
first call that fails. The rules of all contents that were brought until then, and that
can be decoded, are added in this order. A load that ends early fails with what the
failed call surfaces as. -/
theorem addRepository_course (hr : r.Delivers fun d => d.IsContents ∧ d.NulFree)
    (l : Loading σ) :
    ∃ outcome l', l.perform (addRepository .plain r) = (outcome, l') ∧
      ∃ (a : Replies) (made left : List Exchange), a.script = made ++ left ∧
        l'.store = l.store.insertAll (made.flatMap Exchange.rules) ∧
        ((left = [] ∧ outcome = .ok () ∧ r.Holds l.repository made l'.repository ∧
            ∀ calls, r.Keeps calls →
              calls l'.repository = calls l.repository ++ made.map Exchange.call) ∨
          ∃ next rest cause failure ρ, left = next :: rest ∧
            outcome = .error failure ∧ failure.report .plain = cause.surfaced ∧
            r.Holds l.repository made ρ ∧ r.Fails ρ next.call cause l'.repository ∧
            ∀ calls, r.Keeps calls →
              calls l'.repository =
                calls l.repository ++ made.map Exchange.call ++ [next.call]) := by
  have hcontents : r.Delivers Datum.IsContents := hr.mono fun _ h => h.1
  have hfree : r.Delivers Datum.NulFree := hr.mono fun _ h => h.2
  obtain ⟨outcome, s', log', ρ', hperform, hcourse⟩ := perform_addRepository hcontents l
  refine ⟨outcome, ⟨s', log', ρ'⟩, hperform, ?_⟩
  cases hcourse with
  | through hscript hheld _ hstore =>
    obtain ⟨a, rfl⟩ := hscript
    exact ⟨a, a.script, [], (List.append_nil _).symm, hstore,
      .inl ⟨rfl, rfl, hheld, fun calls hcalls => hheld.calls hcalls⟩⟩
  | @failed _ done left next cause _ ρ _ hscript hheld hfails _ hstore =>
    obtain ⟨a, hscript⟩ := hscript
    refine ⟨a, done, next :: left, hscript.symm, hstore, .inr ⟨next, left, cause, _, ρ, rfl,
      rfl, cause.report_toFailure, hheld, hfails, fun calls hcalls => ?_⟩⟩
    rw [hcalls.failed hfails, hheld.calls hcalls]
  -- the contents of an exchange that was held are among those delivered
  | refused _ hheld hrules _ hnul _ =>
    exact absurd hnul (hheld.not_hasNulIn_of_last hfree hrules)

/-! ### A bare repository -/

/-- A bare repository: its default blob is not UTF-8, and the configured file is not
there. -/
def bareTable (failures : List (Text × CallFailure)) : RepositoryTable where
  worktree := .text "A <a>\n".toList
  bare := true
  config := [(fileKey, "extra".toList)]
  blobs := [(defaultBlob, .bytes [0xff])]
  files := []
  failures := failures

theorem bareTable_delivers (failures : List (Text × CallFailure)) :
    (bareTable failures).repository.Delivers fun d => d.IsContents ∧ d.NulFree := by
  refine RepositoryTable.delivers ?_ ?_ fun entry hentry => absurd hentry List.not_mem_nil
  · rintro d ⟨⟩
    refine ⟨.text _, fun t ht => ?_⟩
    obtain rfl : "A <a>\n".toList = t := Except.ok.inj (Document.decode_eq_ok_iff.mpr ht)
    decide
  · rintro entry hentry d hd
    obtain rfl := List.mem_singleton.mp hentry
    cases hd
    have hdecode : Utf8.decode [0xff] = .error ⟨0, 0xff, [], .startByte⟩ := by
      rw [Utf8.decode, Utf8.decodeFrom]
      rfl
    refine ⟨.bytes _, fun t ht => ?_⟩
    cases ht with
    | bytes h => cases hdecode.symm.trans (Utf8.decode_eq_ok_iff.mpr (Except.ok.inj h))

/-- The bare repository on a host that keeps the configured file from being read. -/
def guardedTable : RepositoryTable :=
  bareTable [("read_file:extra".toList, .host (.os ⟨.accessDenied, none⟩))]

/-- The load of the guarded repository takes its course up to the file that cannot be read. -/
theorem addRepository_course_of_guardedTable :
    (guardedTable.repository.Delivers fun d => d.IsContents ∧ d.NulFree) ∧
      (guardedTable.repository.Keeps fun calls => calls) ∧
      ∃ outcome l',
        (start []).perform (addRepository .plain guardedTable.repository) = (outcome, l') ∧
        ∃ (a : Replies) (made left : List Exchange), a.script = made ++ left ∧
          l'.store = Store.empty.insertAll (made.flatMap Exchange.rules) ∧
          ((left = [] ∧ outcome = .ok () ∧ guardedTable.repository.Holds [] made l'.repository ∧
              ∀ calls, guardedTable.repository.Keeps calls →
                calls l'.repository = calls [] ++ made.map Exchange.call) ∨
            ∃ next rest cause failure ρ, left = next :: rest ∧
              outcome = .error failure ∧ failure.report .plain = cause.surfaced ∧
              guardedTable.repository.Holds [] made ρ ∧
              guardedTable.repository.Fails ρ next.call cause l'.repository ∧
              ∀ calls, guardedTable.repository.Keeps calls →
                calls l'.repository =
                  calls [] ++ made.map Exchange.call ++ [next.call]) :=
  ⟨bareTable_delivers _, guardedTable.keeps,
    addRepository_course (bareTable_delivers _) (start [])⟩

/-! ## If no call fails -/

/-- Where no call fails and no contents hold a NUL character, everything is loaded. -/
theorem perform_addRepository_of_nulFree (hnever : r.NeverFails)
    (hcontents : r.Delivers Datum.IsContents) (hfree : r.Delivers Datum.NulFree)
    (l : Loading σ) :
    ∃ (a : Replies) (log' : List LogLine) (ρ' : σ), r.Holds l.repository a.script ρ' ∧
      l.perform (addRepository .plain r) =
        (.ok (), ⟨l.store.insertAll (a.script.flatMap Exchange.rules), log', ρ'⟩) := by
  obtain ⟨outcome, s', log', ρ', hperform, hcourse⟩ := perform_addRepository hcontents l
  cases hcourse with
  | through hscript hheld _ hstore =>
    obtain ⟨a, rfl⟩ := hscript
    rw [hstore] at hperform
    exact ⟨a, log', ρ', hheld, hperform⟩
  | failed _ _ hfails _ _ => exact (hnever hfails).elim
  | refused _ hheld hrules _ hnul _ =>
    exact absurd hnul (hheld.not_hasNulIn_of_last hfree hrules)

/-- **Only a NUL character ends a load in which no call fails.** Contents are text or
bytes, and no more is known of them. Either no rule that they bring holds a NUL
character, and all are added; or the load ends at the first such rule, with a failure
that names a field with the character, and the calls that would have followed are not
made. So if no contents hold a NUL character, adding to a store and filling a new one
both succeed. -/
theorem addRepository_stops_only_at_nul (hnever : r.NeverFails)
    (hcontents : r.Delivers Datum.IsContents) (l : Loading σ) :
    (∃ outcome l', l.perform (addRepository .plain r) = (outcome, l') ∧
      ∃ (a : Replies) (made left : List Exchange), a.script = made ++ left ∧
        r.Holds l.repository made l'.repository ∧
        ((left = [] ∧ (∀ e ∈ made, ∀ q ∈ e.rules, ∀ f, ¬ q.HasNulIn f) ∧ outcome = .ok () ∧
            l'.store = l.store.insertAll (made.flatMap Exchange.rules)) ∨
          ∃ done last before q after f, made = done ++ [last] ∧
            last.rules = before ++ q :: after ∧
            (∀ q' ∈ done.flatMap Exchange.rules ++ before, ∀ f', ¬ q'.HasNulIn f') ∧
            q.HasNulIn f ∧ outcome = .error (.field (.containsNul f)) ∧
            l'.store = l.store.insertAll (done.flatMap Exchange.rules ++ before))) ∧
    (r.Delivers Datum.NulFree →
      (∃ (a : Replies) (log' : List LogLine) (ρ' : σ), r.Holds l.repository a.script ρ' ∧
        l.perform (addRepository .plain r) =
          (.ok (), ⟨l.store.insertAll (a.script.flatMap Exchange.rules), log', ρ'⟩)) ∧
      ∃ (a : Replies) (log' : List LogLine) (ρ' : σ), r.Holds l.repository a.script ρ' ∧
        l.perform (freshly (addRepository .plain r)) =
          (.ok (Store.empty.insertAll (a.script.flatMap Exchange.rules)),
            ⟨l.store, log', ρ'⟩)) := by
  constructor
  · obtain ⟨outcome, s', log', ρ', hperform, hcourse⟩ := perform_addRepository hcontents l
    refine ⟨outcome, ⟨s', log', ρ'⟩, hperform, ?_⟩
    cases hcourse with
    | through hscript hheld hvalid hstore =>
      obtain ⟨a, rfl⟩ := hscript
      refine ⟨a, a.script, [], (List.append_nil _).symm, hheld,
        .inl ⟨rfl, fun e he q hq => ?_, rfl, hstore⟩⟩
      exact (hvalid q (List.mem_flatMap.mpr ⟨e, he, hq⟩)).not_hasNulIn
    | failed _ _ hfails _ _ => exact (hnever hfails).elim
    | @refused _ done left next before after q f _ _ hscript hheld hrules hvalid hnul hstore =>
      obtain ⟨a, hscript⟩ := hscript
      refine ⟨a, done ++ [next], left, ?_, hheld, .inr ⟨done, next, before, q, after, f, rfl,
        hrules, fun q' hq' => (hvalid q' hq').not_hasNulIn, hnul, rfl, hstore⟩⟩
      rw [← hscript, List.append_assoc]
      rfl
  · intro hfree
    refine ⟨perform_addRepository_of_nulFree hnever hcontents hfree l, ?_⟩
    obtain ⟨a, log', ρ', hheld, hperform⟩ :=
      perform_addRepository_of_nulFree hnever hcontents hfree { l with store := .empty }
    refine ⟨a, log', ρ', hheld, ?_⟩
    rw [perform_freshly, hperform]
    rfl

/-- If no call of the bare repository fails, adding to a store and filling a new one both succeed:
the blob that is not UTF-8 is skipped. -/
theorem addRepository_stops_only_at_nul_of_bareTable :
    (bareTable []).repository.NeverFails ∧
      (bareTable []).repository.Delivers Datum.IsContents ∧
      (bareTable []).repository.Delivers Datum.NulFree ∧
      (∃ (a : Replies) (log' : List LogLine) (ρ' : List RepositoryCall),
        (bareTable []).repository.Holds [] a.script ρ' ∧
        (start []).perform (addRepository .plain (bareTable []).repository) =
          (.ok (), ⟨Store.empty.insertAll (a.script.flatMap Exchange.rules), log', ρ'⟩)) ∧
      ∃ (a : Replies) (log' : List LogLine) (ρ' : List RepositoryCall),
        (bareTable []).repository.Holds [] a.script ρ' ∧
        (start []).perform (freshly (addRepository .plain (bareTable []).repository)) =
          (.ok (Store.empty.insertAll (a.script.flatMap Exchange.rules)),
            ⟨Store.empty, log', ρ'⟩) := by
  have hnever : (bareTable []).repository.NeverFails := RepositoryTable.neverFails rfl
  have hcontents : (bareTable []).repository.Delivers Datum.IsContents :=
    (bareTable_delivers []).mono fun _ h => h.1
  have hfree : (bareTable []).repository.Delivers Datum.NulFree :=
    (bareTable_delivers []).mono fun _ h => h.2
  exact ⟨hnever, hcontents, hfree,
    (addRepository_stops_only_at_nul hnever hcontents (start [])).2 hfree⟩

/-! ### A NUL character in the first source -/

/-- A repository that answers every call: the mailmap of its working tree holds a NUL
character, and there is a configured file after it. -/
def nulTable : RepositoryTable where
  worktree := .text "A\x00 <a@x>\n".toList
  bare := false
  config := [(fileKey, "extra".toList)]
  blobs := []
  files := [("extra".toList, .text "Jane <jane@x>\n".toList)]
  failures := []

theorem nulTable_delivers : nulTable.repository.Delivers Datum.IsContents := by
  refine RepositoryTable.delivers ?_ (fun entry hentry => absurd hentry List.not_mem_nil) ?_
  · rintro d ⟨⟩
    exact .text _
  · rintro entry hentry d hd
    obtain rfl := List.mem_singleton.mp hentry
    cases hd
    exact .text _

/-- **That no call fails is not enough**: the load ends at the NUL character, and the
file after it is not asked for. -/
theorem load_fails_though_no_call_does :
    nulTable.repository.NeverFails ∧ nulTable.repository.Delivers Datum.IsContents ∧
      ((start []).perform (addRepository .plain nulTable.repository)).1 =
        .error (.field (.containsNul .properName)) ∧
      ((start []).perform (addRepository .plain nulTable.repository)).2.repository =
        [.worktreeMailmap] ∧
      ((start []).perform (freshly (addRepository .plain nulTable.repository))).1 =
        .error (.field (.containsNul .properName)) :=
  ⟨RepositoryTable.neverFails rfl, nulTable_delivers, rfl, rfl, rfl⟩

end Loading

end Attribution
