import Attribution.Loader
import Attribution.Proofs.Outcomes
import Attribution.Proofs.Text.Utf8
import Attribution.Repository.Git

/-!
# What a git repository answers

Every question to a git repository is answered, or the repository says itself why it
cannot be, but for a few answers of git that nobody can use.

- `CallFailure.OneOf`: why a call fails, if it is for some causes only.
- `GitRepository.Complaint`: what a repository says of a failure of git.
- `GitRepository.Configured`: the value of a configuration key.
- `GitRepository.ends_config`, `GitRepository.ends_blob`, `GitRepository.ends_file`: the
  questions that can fail otherwise, and why.
-/

namespace Attribution

/-- Bytes that are not UTF-8. -/
def Bytes.Undecodable (bytes : Bytes) : Prop := ∀ t, bytes ≠ Utf8.encode t

/-- If a failure is misuse, its cause has a property. -/
def Failure.Allows (p : Misuse → Prop) (e : Failure) : Prop := ∀ cause, e = .misuse cause → p cause

/-- A call fails because something cannot be read, or by misuse, and either for some causes only. No
fault of the host is left as it is. -/
inductive CallFailure.OneOf (c : AccessFailure → Prop) (p : Misuse → Prop) : CallFailure → Prop
  | access {cause : AccessFailure} (hcause : c cause) : OneOf c p (access cause)
  | misuse {cause : Misuse} (hcause : p cause) : OneOf c p (misuse cause)

theorem CallFailure.OneOf.allows {c : AccessFailure → Prop} {p : Misuse → Prop} {e : CallFailure}
    (h : e.OneOf c p) : e.toFailure.Allows p := by
  intro cause heq
  cases h with
  | access => cases heq
  | misuse hcause =>
    cases heq
    exact hcause

theorem Ends.oneOf {σ α : Type} {x : Call σ α} {Q : α → Prop} {c : AccessFailure → Prop}
    {p p' : Misuse → Prop} (h : Ends x Q (CallFailure.OneOf c p))
    (hp : ∀ cause, p cause → p' cause) : Ends x Q (CallFailure.OneOf c p') := by
  refine h.mono (fun _ ha => ha) fun e he => ?_
  cases he with
  | access hcause => exact .access hcause
  | misuse hcause => exact .misuse (hp _ hcause)

/-- Whatever cannot be read, the plain catalogue has words for it. -/
theorem AccessFailure.report_plain (cause : AccessFailure) :
    ∃ message, (Failure.access cause).report .plain = .condition .access message := by
  cases cause <;> exact ⟨_, rfl⟩

/-- Contents that may be missing are bytes. -/
def AreBytes (found : Option Datum) : Prop := ∀ d ∈ found, ∃ bytes, d = .bytes bytes

theorem areBytes_none : AreBytes none := fun _ hd => nomatch hd

namespace Path

/-- A path in the home directory of a user that cannot exist, since its name holds a zero
character. -/
def NamesNoUser (path : Text) : Prop :=
  ∃ user rest, path = '~' :: user ++ rest ∧ '/' ∉ user ∧ '\x00' ∈ user

/-- A path cannot be completed exactly if it leads to a user that cannot exist. -/
theorem expandHome?_eq_none_iff {home : Text} {users : Text → Option Text} {path : Text} :
    expandHome? home users path = none ↔ NamesNoUser path := by
  constructor
  · intro h
    unfold expandHome? at h
    split at h
    · next rest =>
      dsimp only at h
      split at h
      · cases h
      · split at h
        · next hnul =>
          refine ⟨rest.takeWhile (· != '/'), rest.dropWhile (· != '/'), ?_, fun hslash => ?_, hnul⟩
          · rw [List.cons_append, List.takeWhile_append_dropWhile]
          · simpa using List.mem_takeWhile_imp hslash
        · -- a user with any other name is found or not, and either way there is a path
          split at h <;> cases h
    · cases h
  · rintro ⟨user, rest, rfl, hslash, hnul⟩
    -- the name that is looked up reaches to the first slash, so it starts with this one
    have hpass : ∀ c ∈ user, (c != '/') = true := fun c hc =>
      bne_iff_ne.mpr fun heq => hslash (heq ▸ hc)
    have hname : '\x00' ∈ (user ++ rest).takeWhile (· != '/') := by
      rw [List.takeWhile_append_of_pos hpass]
      exact List.mem_append_left _ hnul
    have hsome : ((user ++ rest).takeWhile (· != '/')).isEmpty = false :=
      List.isEmpty_eq_false_iff.mpr (List.ne_nil_of_mem hname)
    show expandHome? home users ('~' :: (user ++ rest)) = none
    simp only [expandHome?, hsome, Bool.false_eq_true, if_false, if_pos hname]

end Path

namespace GitRepository

variable {h : Host} {p : Misuse → Prop}

/-- The words that ask for the value of a configuration key. -/
def configWords (key : Text) : List Text := ["config".toList, "--get".toList, key]

/-- The words that ask which object a revision names. -/
def objectWords (spec : Text) : List Text :=
  ["rev-parse".toList, "--verify".toList, "--quiet".toList, spec]

/-- The value of a configuration key. -/
def Configured (h : Host) (key value : Text) : Prop :=
  ∃ t, h.git (configWords key) = .finished (Utf8.encode t) ∧ value = trimEnd (· == '\n') t

/-! ## Running git -/

/-- What a repository says of a failure of git: that it could not be started, what it complained of,
or that it does not know of a repository. -/
inductive Complaint (h : Host) : AccessFailure → Prop
  | unavailable {arguments : List Text} {cause : OsError}
      (hgit : h.git arguments = .unstartable cause) : Complaint h (.gitUnavailable cause)
  | fatal {f : CommandFailure} {arguments : List Text} {cause : AccessFailure}
      (hcommand : f.command = .words ("git".toList :: arguments))
      (hgit : h.git arguments = .failed f.status f.errors)
      (hfatal : GitRepository.fatal f = .access cause) : Complaint h cause
  | unknown {path : Text} {status : Int} {errors : Bytes}
      (hgit : h.git ["rev-parse".toList, "--is-bare-repository".toList] = .failed status errors) :
      Complaint h (.notRepository path)

/-- What comes of running git. -/
def RunsTo (h : Host) (arguments : List Text) : Except CommandFailure Bytes → Prop
  | .ok output => h.git arguments = .finished output
  | .error f =>
    f.command = .words ("git".toList :: arguments) ∧ h.git arguments = .failed f.status f.errors

theorem RunsTo.fatal {arguments : List Text} {f : CommandFailure}
    (hruns : RunsTo h arguments (.error f)) : (fatal f).OneOf (Complaint h) p :=
  .access (.fatal hruns.1 hruns.2 rfl)

theorem ends_run (arguments : List Text) :
    Ends (run h arguments) (RunsTo h arguments) (CallFailure.OneOf (Complaint h) p) := by
  refine ends_modify.bind fun _ _ => ?_
  cases hgit : h.git arguments with
  | finished output => exact ends_pure hgit
  | failed status errors => exact ends_pure ⟨rfl, hgit⟩
  | unstartable cause => exact ends_throw (.access (.unavailable hgit))

theorem ends_runOrFail (arguments : List Text) :
    Ends (runOrFail h arguments) (fun output => h.git arguments = .finished output)
      (CallFailure.OneOf (Complaint h) p) := by
  refine (ends_run arguments).bind fun result hruns => ?_
  cases result with
  | ok output => exact ends_pure hruns
  | error f => exact ends_throw hruns.fatal

theorem ends_runIfAny (arguments : List Text) :
    Ends (runIfAny h arguments)
      (fun found => ∀ output ∈ found, h.git arguments = .finished output)
      (CallFailure.OneOf (Complaint h) p) := by
  refine (ends_run arguments).bind fun result hruns => ?_
  cases result with
  | ok output => exact ends_pure fun output' hmem => by cases hmem; exact hruns
  | error f =>
    dsimp only
    split
    · exact ends_pure fun output hmem => nomatch hmem
    · exact ends_throw hruns.fatal

theorem ends_decodeOutput (output : Bytes) :
    Ends (decodeOutput output) (fun t => output = Utf8.encode t)
      (CallFailure.OneOf (Complaint h) fun cause => cause = .undecodable ∧ output.Undecodable) := by
  unfold decodeOutput
  cases hdecode : Utf8.decode output with
  | ok t => exact ends_pure (Utf8.decode_eq_ok_iff.mp hdecode)
  | error f => exact ends_throw (.misuse ⟨rfl, Utf8.exists_error_iff.mp ⟨f, hdecode⟩⟩)

/-! ## Questions -/

theorem ends_isBare : Ends (isBare h) (fun _ => True) (CallFailure.OneOf (Complaint h) p) := by
  refine ends_get.bind fun r _ => ?_
  cases r.bare with
  | some bare => exact ends_pure trivial
  | none =>
    refine (ends_run _).bind fun result hruns => ?_
    cases result with
    | ok output => exact ends_modify.bind fun _ _ => ends_pure trivial
    | error f => exact ends_get.bind fun _ _ => ends_throw (.access (.unknown hruns.2))

theorem ends_hasWorktree :
    Ends (hasWorktree h) (fun _ => True) (CallFailure.OneOf (Complaint h) p) :=
  ends_isBare.bind fun _ _ => ends_pure trivial

theorem ends_toplevel : Ends (toplevel h) (fun _ => True) (CallFailure.OneOf (Complaint h) p) := by
  refine ends_get.bind fun r _ => ?_
  cases r.top with
  | some top => exact ends_pure trivial
  | none =>
    refine (ends_runOrFail _).bind fun output _ => ?_
    exact ends_modify.bind fun _ _ => ends_pure trivial

theorem areBytes_readFile (path : Text) : AreBytes (readFile h path) := by
  intro d hd
  obtain ⟨bytes, -, rfl⟩ := Option.map_eq_some_iff.mp hd
  exact ⟨bytes, rfl⟩

theorem ends_worktreeMailmap :
    Ends (worktreeMailmap h) AreBytes (CallFailure.OneOf (Complaint h) p) := by
  refine ends_hasWorktree.bind fun worktree _ => ?_
  cases worktree with
  | true => exact ends_toplevel.bind fun _ _ => ends_pure (areBytes_readFile _)
  | false => exact ends_pure areBytes_none

/-- **The value of a configuration key**, which git must print in UTF-8. -/
theorem ends_config (key : Text) :
    Ends (config h key) (fun found => ∀ value ∈ found, Configured h key value)
      (CallFailure.OneOf (Complaint h) fun cause => cause = .undecodable ∧
        ∃ output, h.git (configWords key) = .finished output ∧ output.Undecodable) := by
  refine (ends_runIfAny (configWords key)).bind fun found hfound => ?_
  cases found with
  | none => exact ends_pure fun value hvalue => nomatch hvalue
  | some output =>
    have hgit := hfound output rfl
    refine Ends.bind ((ends_decodeOutput output).oneOf fun cause hcause =>
      ⟨hcause.1, output, hgit, hcause.2⟩) fun t ht => ends_pure fun value hvalue => ?_
    cases hvalue
    exact ⟨t, ht ▸ hgit, rfl⟩

/-- **The contents of a blob**, whose object git must name in UTF-8. -/
theorem ends_blob (spec : Text) :
    Ends (blob h spec) AreBytes
      (CallFailure.OneOf (Complaint h) fun cause => cause = .undecodable ∧
        ∃ output, h.git (objectWords spec) = .finished output ∧
          (Bytes.strip output).Undecodable) := by
  refine (ends_runIfAny (objectWords spec)).bind fun found hfound => ?_
  cases found with
  | none => exact ends_pure areBytes_none
  | some output =>
    have hgit := hfound output rfl
    refine Ends.bind ((ends_decodeOutput output.strip).oneOf fun cause hcause =>
      ⟨hcause.1, output, hgit, hcause.2⟩) fun object _ => (ends_runOrFail _).bind fun kind _ => ?_
    split
    · refine (ends_runOrFail _).bind fun contents _ => ends_pure fun d hd => ?_
      cases hd
      exact ⟨contents, rfl⟩
    · exact ends_pure areBytes_none

/-- **The contents of a file**, whose path must not lead to a user that cannot exist. -/
theorem ends_file (path : Text) :
    Ends (file h path) AreBytes
      (CallFailure.OneOf (Complaint h) fun cause =>
        cause = .invalidValue ∧ Path.NamesNoUser path) := by
  have hhome : Ends (expandHome h path) (fun _ => True)
      (CallFailure.OneOf (Complaint h) fun cause =>
        cause = .invalidValue ∧ Path.NamesNoUser path) := by
    unfold expandHome
    cases hexpand : Path.expandHome? h.home h.users path with
    | some path' => exact ends_pure trivial
    | none => exact ends_throw (.misuse ⟨rfl, Path.expandHome?_eq_none_iff.mp hexpand⟩)
  refine hhome.bind fun path' _ => ?_
  split
  · exact ends_pure (areBytes_readFile _)
  · refine ends_hasWorktree.bind fun worktree _ => ?_
    cases worktree with
    | true => exact ends_toplevel.bind fun _ _ => ends_pure (areBytes_readFile _)
    | false => exact ends_get.bind fun _ _ => ends_pure (areBytes_readFile _)

end GitRepository

end Attribution
