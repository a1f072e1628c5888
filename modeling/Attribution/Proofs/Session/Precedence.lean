import Attribution.Proofs.Loading.Succeeds
import Attribution.Proofs.Options.Values
import Attribution.Proofs.Repository.Runs
import Attribution.Session

/-!
# Which source comes first

A run loads what is configured for the repository that its options name, then the files,
then the blobs, so that later sources come in place of earlier ones.

- `Session.FileBrings`: the rules that a file brings which an option names.
- `Session.Brings`: what the sources of options bring, in order.
- `Session.brings_of_load`: a load that succeeds has added this.
- `Session.perform_loadFile_missing`, `Session.perform_loadBlob_skipped`: the sources that
  are skipped.
- `Session.perform_load_of_undecodable`: a file that is not UTF-8 ends the load.
- `Session.perform_load_of_files`: loading files alone has nothing to do with git.
- `Session.sources_in_order`: all of it for the options of a command line.
-/

namespace Attribution

/-- The contents of a file whose path comes from a command line. -/
theorem Host.read_encode (h : Host) (path : Text) :
    h.read (.bytes (Utf8.encode path)) =
      (h.file path).mapError fun errno => ⟨errno, some (.bytes (Utf8.encode path))⟩ := by
  rw [Host.read, PathName.toText, Utf8.decodeLossy_encode]

namespace Session

open Loading GitRepository

variable {h : Host} {o : Options} {l l' : Loading GitRepository} {v : OptionValue}
  {vs : List OptionValue} {u : Unit}

/-! ## Files -/

/-- The rules that a file brings which an option names: none if it is not there. -/
inductive FileBrings (h : Host) : OptionValue → List Rule → Prop
  | missing {path : Text} {errno : Errno} (hfile : h.file path = .error errno)
      (hmissing : errno.isNoEntry = true) : FileBrings h (.text path) []
  | present {path t : Text} (hfile : h.file path = .ok (Utf8.encode t)) :
      FileBrings h (.text path) (Document.rules t)

theorem perform_loadFile (l : Loading GitRepository) (path : Text) :
    l.perform (loadFile h (.text path)) = l.perform (addPath h (.bytes (Utf8.encode path))) :=
  perform_bind_ok rfl

section OneFile

variable {path : Text} {errno : Errno} {bytes : Bytes} (l : Loading GitRepository)

/-- A file that can be read is added by its contents. -/
theorem perform_loadFile_present (hfile : h.file path = .ok bytes) :
    l.perform (loadFile h (.text path)) = l.perform (addBuffer (.bytes bytes) path) := by
  rw [perform_loadFile, addPath, Host.read_encode, hfile]
  dsimp only [Except.mapError]
  rw [PathName.toText, Utf8.decodeLossy_encode]

/-- **A file that is not there** is skipped. -/
theorem perform_loadFile_missing (hfile : h.file path = .error errno)
    (hmissing : errno.isNoEntry = true) :
    ∃ log, l.perform (loadFile h (.text path)) = (.ok (), { l with log }) := by
  rw [perform_loadFile, addPath, Host.read_encode, hfile]
  dsimp only [Except.mapError]
  rw [if_pos hmissing]
  exact ⟨_, rfl⟩

/-- A file that is there and cannot be opened ends the load. -/
theorem perform_loadFile_unreadable (hfile : h.file path = .error errno)
    (hthere : errno.isNoEntry = false) :
    ∃ cause, l.perform (loadFile h (.text path)) = (.error (.access cause), l) := by
  rw [perform_loadFile, addPath, Host.read_encode, hfile]
  dsimp only [Except.mapError]
  rw [if_neg (Bool.eq_false_iff.mp hthere)]
  exact ⟨_, rfl⟩

end OneFile

/-- **A file that is loaded** brings its rules. -/
theorem fileBrings_of_loadFile (hload : l.perform (loadFile h v) = (.ok u, l')) :
    ∃ rs, FileBrings h v rs ∧ l'.store = l.store.insertAll rs ∧ l'.repository = l.repository := by
  cases v with
  | lost => cases hload
  | text path =>
    cases hfile : h.file path with
    | error errno =>
      cases hmissing : errno.isNoEntry with
      | true =>
        obtain ⟨log, hskips⟩ := perform_loadFile_missing l hfile hmissing
        obtain ⟨-, rfl⟩ := Prod.mk.inj (hload.symm.trans hskips)
        exact ⟨[], .missing hfile hmissing, rfl, rfl⟩
      | false =>
        obtain ⟨cause, hfails⟩ := perform_loadFile_unreadable l hfile hmissing
        cases hload.symm.trans hfails
    | ok contents =>
      rw [perform_loadFile_present l hfile] at hload
      cases hdecode : Document.decode (.bytes contents) with
      | error e =>
        obtain ⟨log', hfails⟩ :=
          (yields_addContents_error hdecode l.store l.repository).bind_error l.log
        cases hload.symm.trans hfails
      | ok t =>
        obtain rfl : contents = Utf8.encode t :=
          Datum.spells_bytes_iff.mp (Document.decode_eq_ok_iff.mp hdecode)
        obtain ⟨added, outcome, hcome, hyields⟩ := takesIn_addBuffer hdecode _
        obtain ⟨log', hadds⟩ := hyields l.store l.repository l.log
        obtain ⟨rfl, rfl⟩ := Prod.mk.inj (hload.symm.trans hadds)
        rw [hcome.eq_of_ok, Datum.rules_of_decode hdecode]
        exact ⟨_, .present hfile, rfl, rfl⟩

/-- Files that are loaded bring their rules one after the other. -/
theorem filesBring_of_forM (hload : l.perform (vs.forM (loadFile h)) = (.ok u, l')) :
    ∃ files, List.Forall₂ (FileBrings h) vs files ∧
      l'.store = l.store.insertAll files.flatten ∧ l'.repository = l.repository := by
  induction vs generalizing l with
  | nil =>
    cases hload
    exact ⟨[], .nil, rfl, rfl⟩
  | cons v rest ih =>
    obtain ⟨_, l₁, hfirst, hrest⟩ := perform_bind_eq_ok_iff.mp hload
    obtain ⟨rs, hbrings, hstore, hrepository⟩ := fileBrings_of_loadFile hfirst
    obtain ⟨files, hfiles, hstore', hrepository'⟩ := ih hrest
    refine ⟨rs :: files, .cons hbrings hfiles, ?_, hrepository'.trans hrepository⟩
    rw [hstore', hstore, List.flatten_cons, Store.insertAll_append]

/-! ## Repositories -/

/-- What the repository is asked for that the options name, and where it is: if they name
none, nothing is asked, and blobs are looked for in the current directory. -/
inductive AsksRepository : Option OptionValue → Text → List Exchange → Prop
  | none : AsksRepository none ['.'] []
  | some (dir : Text) (a : Replies) : AsksRepository (some (.text dir)) dir a.script

/-- The step for a repository is to turn to it and to add what is configured for it. -/
theorem perform_loadRepository {dir : Text} (hrepo : o.repo = some (.text dir))
    (l : Loading GitRepository) :
    l.perform (loadRepository h o) =
      { l with repository := { GitRepository.atPath dir with runs := l.repository.runs } }.perform
        (addRepository h.catalogue (repository h)) := by
  unfold loadRepository
  rw [hrepo]
  exact (perform_bind_ok rfl).trans (perform_bind_ok rfl)

/-- **The repository whose sources are loaded** is asked for them. -/
theorem asked_of_loadRepository (hl : l.repository = .atPath ['.'])
    (hload : l.perform (loadRepository h o) = (.ok u, l')) :
    ∃ dir asked, AsksRepository o.repo dir asked ∧
      (repository h).Holds (.atPath dir) asked l'.repository ∧
      l'.store = l.store.insertAll (asked.flatMap Exchange.rules) := by
  cases hrepo : o.repo with
  | none =>
    rw [loadRepository, hrepo] at hload
    cases hload
    refine ⟨['.'], [], .none, ?_, rfl⟩
    rw [hl]
    exact .nil _
  | some v =>
    cases v with
    | lost =>
      rw [loadRepository, hrepo] at hload
      cases hload
    | text dir =>
      have hturned : { GitRepository.atPath dir with runs := l.repository.runs } =
          GitRepository.atPath dir := by
        rw [hl]
        rfl
      rw [perform_loadRepository hrepo, hturned] at hload
      obtain ⟨a, hheld, hstore⟩ := asked_of_addRepository (delivers_isContents h) hload
      exact ⟨dir, a.script, .some dir a, hheld, hstore⟩

/-! ## Blobs -/

/-- The repository that is asked for blobs: the one that the options name, or else the one in
the current directory, of which nothing is known. -/
def facing (o : Options) (ρ : GitRepository) : GitRepository :=
  if o.repo.isNone then { GitRepository.atPath ['.'] with runs := ρ.runs } else ρ

/-- The exchange about a blob that an option names. -/
inductive BlobAsked : OptionValue → Exchange → Prop
  | mk (spec : Text) (found : Option Datum) : BlobAsked (.text spec) ⟨.blob spec, found⟩

theorem perform_loadBlob (l : Loading GitRepository) (spec : Text) :
    l.perform (loadBlob h o (.text spec)) =
      { l with repository := facing o l.repository }.perform
        (addBlob h.catalogue (repository h) spec) := by
  unfold loadBlob facing
  dsimp only
  split
  · rfl
  · rfl

/-- Where nothing is known, it stays so while blobs are asked for. -/
theorem facing_of_ranMore {ρ ρ' : GitRepository} (hfacing : facing o ρ = ρ)
    (hran : RanMore ρ ρ') : facing o ρ' = ρ' := by
  unfold facing at hfacing ⊢
  split
  · next hnone =>
    rw [if_pos hnone] at hfacing
    obtain ⟨path, bare, top, runs⟩ := ρ'
    obtain ⟨⟨rfl, -⟩, rfl, rfl⟩ := hran
    rw [← hfacing]
  · rfl

/-- **A blob that is loaded** is asked for and added. -/
theorem asked_of_loadBlob (hfacing : facing o l.repository = l.repository)
    (hload : l.perform (loadBlob h o v) = (.ok u, l')) :
    ∃ e, BlobAsked v e ∧ (repository h).Answers l.repository e l'.repository ∧
      l'.store = l.store.insertAll e.rules ∧ facing o l'.repository = l'.repository := by
  cases v with
  | lost =>
    unfold loadBlob at hload
    dsimp only at hload
    split at hload
    · cases hload
    · cases hload
  | text spec =>
    rw [perform_loadBlob, hfacing] at hload
    obtain ⟨found, hanswers, hstore⟩ := asked_of_addBlob (delivers_isContents h) hload
    have hran : RanMore l.repository l'.repository := by
      have hblob := along_blob (h := h) spec l.repository
      rwa [show (blob h spec).run.run l.repository = _ from hanswers] at hblob
    exact ⟨_, .mk spec found, hanswers, hstore, facing_of_ranMore hfacing hran⟩

/-- Blobs that are loaded are asked for and added one after the other. -/
theorem asked_of_forM_loadBlob (hfacing : facing o l.repository = l.repository)
    (hload : l.perform (vs.forM (loadBlob h o)) = (.ok u, l')) :
    ∃ blobs, List.Forall₂ BlobAsked vs blobs ∧
      (repository h).Holds l.repository blobs l'.repository ∧
      l'.store = l.store.insertAll (blobs.flatMap Exchange.rules) := by
  induction vs generalizing l with
  | nil =>
    cases hload
    exact ⟨[], .nil, .nil _, rfl⟩
  | cons v rest ih =>
    obtain ⟨_, l₁, hfirst, hrest⟩ := perform_bind_eq_ok_iff.mp hload
    obtain ⟨e, hasked, hanswers, hstore, hfacing₁⟩ := asked_of_loadBlob hfacing hfirst
    obtain ⟨blobs, hblobs, hheld, hstore'⟩ := ih hfacing₁ hrest
    refine ⟨e :: blobs, .cons hasked hblobs, .cons hanswers hheld, ?_⟩
    rw [hstore', hstore, List.flatMap_cons, Store.insertAll_append]

/-! ## All sources -/

/-- What sources bring: the directory of the repository, the exchanges about what is
configured for it, the rules of the files, and the exchanges about the blobs. -/
structure Brought where
  dir : Text
  asked : List Exchange
  files : List (List Rule)
  blobs : List Exchange

/-- All rules that are brought, in order. Contents that cannot be decoded have none. -/
def Brought.rules (b : Brought) : List Rule :=
  b.asked.flatMap Exchange.rules ++ b.files.flatten ++ b.blobs.flatMap Exchange.rules

/-- What was brought is what the sources of options bring, if the repository is asked for what is
configured and then for the blobs, and ends in a state. -/
structure Brought.From (b : Brought) (h : Host) (o : Options) (ρ : GitRepository) : Prop where
  repository : AsksRepository o.repo b.dir b.asked
  files : List.Forall₂ (FileBrings h) o.mailmapFiles b.files
  blobs : List.Forall₂ BlobAsked o.mailmapBlobs b.blobs
  held : (GitRepository.repository h).Holds (.atPath b.dir) (b.asked ++ b.blobs) ρ

theorem Brought.From.head?_runs {b : Brought} {ρ : GitRepository} (hfrom : b.From h o ρ) :
    ∀ words ∈ ρ.runs, words.head? = some b.dir := by
  obtain ⟨-, more, hruns, hmore⟩ := extends_of_holds hfrom.held
  rw [hruns]
  exact hmore

/-- **A load that succeeds** has added what its sources bring. -/
theorem brought_of_load (hl : l.repository = .atPath ['.'])
    (hload : l.perform (load h o) = (.ok u, l')) :
    ∃ b : Brought, b.From h o l'.repository ∧ l'.store = l.store.insertAll b.rules := by
  obtain ⟨_, l₁, hrepository, hrest⟩ := perform_bind_eq_ok_iff.mp hload
  obtain ⟨_, l₂, hfiles, hblobs⟩ := perform_bind_eq_ok_iff.mp hrest
  obtain ⟨dir, asked, hasks, hheld, hstore⟩ := asked_of_loadRepository hl hrepository
  obtain ⟨files, hbring, hstore', hsame⟩ := filesBring_of_forM hfiles
  have hfacing : facing o l₂.repository = l₂.repository := by
    rw [hsame]
    generalize hrepo : o.repo = repo at hasks
    unfold facing
    cases hasks with
    | none =>
      rw [hrepo, hheld.eq_of_nil]
      rfl
    | some dir a =>
      rw [hrepo]
      rfl
  obtain ⟨blobs, hasked, hheld', hstore''⟩ := asked_of_forM_loadBlob hfacing hblobs
  rw [hsame] at hheld'
  refine ⟨⟨dir, asked, files, blobs⟩, ⟨hasks, hbring, hasked, hheld.append hheld'⟩, ?_⟩
  rw [hstore'', hstore', hstore, Brought.rules, Store.insertAll_append, Store.insertAll_append]

/-! ## Blobs that are skipped -/

/-- **A blob that is not there** is skipped, and so is one that is not UTF-8, if there are words
to say so. -/
theorem perform_loadBlob_skipped {spec : Text} {found : Option Datum} {ρ : GitRepository}
    (hanswers : (repository h).Answers (facing o l.repository) ⟨.blob spec, found⟩ ρ)
    (hskip : ∀ d ∈ found, h.catalogue = .plain ∧ ∀ t, ¬ d.Spells t) :
    ∃ log, l.perform (loadBlob h o (.text spec)) = (.ok (), ⟨l.store, log, ρ⟩) := by
  rw [perform_loadBlob]
  have hasked := yields_ask (c := (repository h).blob spec) hanswers l.store
  cases found with
  | none => exact (hasked.bind_ok (yields_report _ _ _)) l.log
  | some d =>
    obtain ⟨hplain, hbad⟩ := hskip d rfl
    rcases (delivers_isContents h hanswers d rfl).decode with ⟨t, hdecode⟩ | ⟨cause, hdecode⟩
    · exact absurd (Document.decode_eq_ok_iff.mp hdecode) (hbad t)
    · rw [hplain]
      exact (hasked.bind_ok (yields_addSource_skipped hdecode rfl spec _ _)) l.log

/-! ## Files that are not UTF-8 -/

theorem perform_loadFile_undecodable {path : Text} {bytes : Bytes} {cause : Utf8.DecodeFailure}
    (hfile : h.file path = .ok bytes) (hdecode : Utf8.decode bytes = .error cause)
    (l : Loading GitRepository) :
    l.perform (loadFile h (.text path)) =
      (.error (.parse (.undecodableMailmap cause)), l) := by
  rw [perform_loadFile_present l hfile]
  exact perform_bind_error (perform_addContents_error (Document.decode_of_error hdecode))

/-- **A file that is not UTF-8 ends the load**, unless a source before it did. -/
theorem perform_load_of_undecodable {before after : List OptionValue} {path : Text}
    {bytes : Bytes} {cause : Utf8.DecodeFailure}
    (hfiles : o.mailmapFiles = before ++ .text path :: after)
    (hfile : h.file path = .ok bytes) (hdecode : Utf8.decode bytes = .error cause)
    (l : Loading GitRepository) :
    ∃ outcome l',
      l.perform (load h { o with mailmapFiles := before, mailmapBlobs := [] }) = (outcome, l') ∧
      l.perform (load h o) =
        (outcome >>= fun _ => .error (.parse (.undecodableMailmap cause)), l') := by
  have hrepository : loadRepository h { o with mailmapFiles := before, mailmapBlobs := [] } =
      loadRepository h o := rfl
  have happend : o.mailmapFiles.forM (loadFile h) =
      before.forM (loadFile h) >>= fun _ => (.text path :: after).forM (loadFile h) := by
    rw [hfiles]
    exact List.forM_append
  have hfails (l₂ : Loading GitRepository) :
      l₂.perform ((.text path :: after).forM (loadFile h)) =
        (.error (.parse (.undecodableMailmap cause)), l₂) :=
    perform_bind_error (perform_loadFile_undecodable hfile hdecode l₂)
  refine ⟨_, _, (Prod.eta _).symm, ?_⟩
  unfold load
  rw [perform_bind, perform_bind, hrepository]
  cases l.perform (loadRepository h o) with
  | mk outcome l₁ =>
    cases outcome with
    | error e => rfl
    | ok u =>
      dsimp only
      rw [perform_bind, perform_bind, happend, perform_bind]
      cases l₁.perform (before.forM (loadFile h)) with
      | mk outcome l₂ =>
        cases outcome with
        | error e => rfl
        | ok u =>
          dsimp only
          rw [hfails]
          rfl

/-! ## Files alone -/

/-- Nothing happens to the repository. -/
def SameRepository (l l' : Loading GitRepository) : Prop := l'.repository = l.repository

instance : Std.Refl SameRepository := ⟨fun _ => rfl⟩

instance : Trans SameRepository SameRepository SameRepository := ⟨fun h h' => h'.trans h⟩

theorem along_addPath (path : PathName) :
    Along (addPath h path : Load GitRepository Unit) SameRepository := by
  have hsame : Along (addPath h path : Load GitRepository Unit) (OnRepository Eq) := by
    unfold addPath
    split
    · exact along_addBuffer _ _
    · split
      · exact along_report _
      · exact along_throw _
  exact hsame.mono fun _ _ hrepository => hrepository.symm

/-- **Loading files alone** has nothing to do with git. -/
theorem perform_load_of_files (hrepo : o.repo = none) (hblobs : o.mailmapBlobs = []) :
    (∀ l : Loading GitRepository, (l.perform (load h o)).2.repository = l.repository) ∧
      ∀ git, load { h with git } o = load h o := by
  have hload : ∀ h : Host, load h o = o.mailmapFiles.forM (loadFile h) >>= fun _ => pure () := by
    intro h
    rw [load, loadRepository, hrepo, hblobs]
    rfl
  constructor
  · have hfiles : Along (o.mailmapFiles.forM (loadFile h)) SameRepository := by
      refine along_forM fun v _ => Along.bind ?_ fun path => along_addPath _
      cases v with
      | text t => exact along_pure t
      | lost => exact along_throw _
    rw [hload]
    exact hfiles.bind fun _ => along_pure ()
  · intro git
    rw [hload, hload]
    rfl

/-! ## A command line -/

theorem load_congr {o' : Options} (hsame : o.SameSources o') : load h o' = load h o := by
  have hblob : loadBlob h o' = loadBlob h o := by
    funext v
    rw [loadBlob, loadBlob, hsame.repo]
  rw [load, load, loadRepository, loadRepository, hsame.repo, hsame.mailmapFiles,
    hsame.mailmapBlobs, hblob]

/-- **The order of the sources** that a command line names. They are those that stand on it,
for each option in order, and nothing depends on how the options stand among each other. If
loading them succeeds, what was added to the empty store is what is configured for the
repository, then the rules of the files that are there, then those of the blobs, which the
repository is asked for, or the one in the current directory if none is named; and git was run
in no other directory. A file or a blob that is not there is skipped, and so is a blob that is
not UTF-8. A file that is not UTF-8 ends the load, unless a source before it has done so.
Where only files are named, git is not run, and nothing depends on it. -/
theorem sources_in_order {argv : List Text} (hread : Options.read h.catalogue argv = .ok o) :
    (∃ words, Word.classify argv = .ok words ∧ o.Names words ∧
      ∀ argv' o' words', Options.read h.catalogue argv' = .ok o' →
        Word.classify argv' = .ok words' →
        (∀ name : OptionName, name.takesValue = true →
          Word.values name words' = Word.values name words) → load h o' = load h o) ∧
    (∀ l', (start (.atPath ['.'])).perform (load h o) = (.ok (), l') →
      ∃ b : Brought, b.From h o l'.repository ∧ l'.store = Store.empty.insertAll b.rules ∧
        ∀ words ∈ l'.repository.runs, words.head? = some b.dir) ∧
    ((∀ (l : Loading GitRepository) path errno, h.file path = .error errno →
        errno.isNoEntry = true →
        ∃ log, l.perform (loadFile h (.text path)) = (.ok (), { l with log })) ∧
      ∀ (l : Loading GitRepository) spec (found : Option Datum) ρ,
        (repository h).Answers (facing o l.repository) ⟨.blob spec, found⟩ ρ →
        (∀ d ∈ found, h.catalogue = .plain ∧ ∀ t, ¬ d.Spells t) →
        ∃ log, l.perform (loadBlob h o (.text spec)) = (.ok (), ⟨l.store, log, ρ⟩)) ∧
    (∀ before path after bytes cause, o.mailmapFiles = before ++ .text path :: after →
      h.file path = .ok bytes → Utf8.decode bytes = .error cause →
      ∃ outcome l', (start (.atPath ['.'])).perform
          (load h { o with mailmapFiles := before, mailmapBlobs := [] }) = (outcome, l') ∧
        (start (.atPath ['.'])).perform (load h o) =
          (outcome >>= fun _ => .error (.parse (.undecodableMailmap cause)), l')) ∧
    (o.repo = none → o.mailmapBlobs = [] →
      ((start (.atPath ['.'])).perform (load h o)).2.repository.runs = [] ∧
        ∀ git, (start (.atPath ['.'])).perform (load { h with git } o) =
          (start (.atPath ['.'])).perform (load h o)) := by
  refine ⟨?_, fun l' hload => ?_, ⟨fun l path errno hfile hmissing =>
    perform_loadFile_missing l hfile hmissing,
    fun l spec found ρ => perform_loadBlob_skipped⟩, fun before path after bytes cause
    hfiles hfile hdecode => perform_load_of_undecodable hfiles hfile hdecode _,
    fun hrepo hblobs => ?_⟩
  · obtain ⟨words, hclassify, hnames⟩ := Options.exists_words_of_read hread
    refine ⟨words, hclassify, hnames, fun argv' o' words' hread' hclassify' hwords => ?_⟩
    obtain ⟨words'', hclassify'', hnames'⟩ := Options.exists_words_of_read hread'
    obtain rfl : words'' = words' := Except.ok.inj (hclassify''.symm.trans hclassify')
    exact load_congr (hnames.sameSources hnames' hwords)
  · obtain ⟨b, hfrom, hstore⟩ := brought_of_load rfl hload
    exact ⟨b, hfrom, hstore, hfrom.head?_runs⟩
  · obtain ⟨hsame, hgit⟩ := perform_load_of_files (h := h) hrepo hblobs
    refine ⟨?_, fun git => by rw [hgit]⟩
    rw [hsame]
    rfl

/-! ### A blob before a file that is not UTF-8 -/

/-- A machine on which a file is not UTF-8 and git does not run. -/
def latinHost : Host where
  git _ := .unstartable ⟨.noEntry, none⟩
  file path := if path = "f".toList then .ok [0xE9] else .error .noEntry
  home := []
  catalogue := .plain

/-- The file ends the load before the blob is asked for, though it stands after it. -/
theorem sources_in_order_latinHost :
    ∃ o, Options.read latinHost.catalogue
        ["--mailmap-blob=b".toList, "--mailmap-file=f".toList, "--list".toList] = .ok o ∧
      (start (.atPath ['.'])).perform (load latinHost o) =
        (.error (.parse (.undecodableMailmap ⟨0, 0xE9, [], .truncated⟩)),
          start (.atPath ['.'])) := by
  have hread : Options.read latinHost.catalogue
      ["--mailmap-blob=b".toList, "--mailmap-file=f".toList, "--list".toList] =
      .ok { Options.initial with
        mailmapFiles := [.text "f".toList], mailmapBlobs := [.text "b".toList], list := true } := by
    cbv
  have hdecode : Utf8.decode [0xE9] = .error ⟨0, 0xE9, [], .truncated⟩ := by cbv
  obtain ⟨-, -, -, hundecodable, -⟩ := sources_in_order hread
  obtain ⟨outcome, l', hbefore, hload⟩ := hundecodable [] "f".toList [] [0xE9] _ rfl rfl hdecode
  cases hbefore
  exact ⟨_, hread, hload⟩

end Session

end Attribution
