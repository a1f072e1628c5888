import Attribution.Options.Read
import Attribution.Proofs.Rule.Fields

/-!
# The values on a command line

Which sources a command line names: those that come after their options, in order.

- `Word.values`: the values that the words of a command line give an option.
- `Options.SameSources`: options that name the same sources.
- `Options.Names`: the sources that words name.
- `Options.names_of_consume`: reading the words of a command line takes in these.
- `Options.exists_words_of_read`: the sources of the options that a command line stands for.
-/

namespace Attribution

/-- The values that the words of a command line give an option, in order: what is attached to
it, or the argument after it. -/
def Word.values (name : OptionName) : List Word → List OptionValue
  | [] => []
  | .option o _ (some value) :: rest =>
    if o = name then .ofText value :: values name rest else values name rest
  | .option o _ none :: .argument value :: rest =>
    if o = name then .text value :: values name rest else values name rest
  | _ :: rest => values name rest

namespace Word

variable {name o : OptionName} {short : Bool} {attached : Option Text} {rest : List Word}
  {w : Word}

/-- A word that can stand among contacts gives no value on its own. -/
theorem values_cons_of_canBeContact (h : Options.canBeContact w = true) :
    values name (w :: rest) = values name rest := by
  cases w with
  | argument t => rfl
  | terminator => rfl
  | option o short attached => cases h
  | unknown t => cases h

theorem values_dropWhile_canBeContact (words : List Word) :
    values name (words.dropWhile Options.canBeContact) = values name words := by
  induction words with
  | nil => rfl
  | cons w rest ih =>
    by_cases h : Options.canBeContact w = true
    · rw [List.dropWhile_cons_of_pos h, ih, values_cons_of_canBeContact h]
    · rw [List.dropWhile_cons_of_neg h]

/-- Another option gives no value to this one, nor does what belongs to it. -/
theorem values_option_of_ne (h : o ≠ name) :
    values name (.option o short attached :: rest) = values name rest := by
  cases attached with
  | some value => exact if_neg h
  | none =>
    rcases rest with - | ⟨w, rest⟩
    · rfl
    · cases w with
      | argument value => exact if_neg h
      | _ => rfl

end Word

namespace Options

/-- Options that name the same sources. -/
structure SameSources (o o' : Options) : Prop where
  repo : o'.repo = o.repo
  mailmapFiles : o'.mailmapFiles = o.mailmapFiles
  mailmapBlobs : o'.mailmapBlobs = o.mailmapBlobs

/-- Options to which words add sources: of the repositories the last counts, and files and
blobs come after those that are there. -/
structure Gains (o o' : Options) (words : List Word) : Prop where
  repo : o'.repo = (Word.values .repo words).getLast?.or o.repo
  mailmapFiles : o'.mailmapFiles = o.mailmapFiles ++ Word.values .mailmapFile words
  mailmapBlobs : o'.mailmapBlobs = o.mailmapBlobs ++ Word.values .mailmapBlob words

section Flags

variable {o o' : Options} {name : OptionName}

theorem SameSources.refl (o : Options) : o.SameSources o := ⟨rfl, rfl, rfl⟩

/-- Options name the sources of others that name those of the first. -/
theorem SameSources.trans {o'' : Options} (h : o.SameSources o') (h' : o'.SameSources o'') :
    o.SameSources o'' :=
  ⟨h'.repo.trans h.repo, h'.mailmapFiles.trans h.mailmapFiles,
    h'.mailmapBlobs.trans h.mailmapBlobs⟩

theorem sameSources_setFlag (o : Options) (name : OptionName) :
    o.SameSources (o.setFlag name) := by
  cases name <;> exact ⟨rfl, rfl, rfl⟩

theorem sameSources_of_setLetters {letters : Text} (h : setLetters o name letters = .ok o') :
    o.SameSources o' := by
  induction letters generalizing o name with
  | nil => cases h
  | cons letter rest ih =>
    rw [setLetters] at h
    split at h
    · split at h
      · cases h
      · split at h
        · cases h
          exact (sameSources_setFlag o name).trans (sameSources_setFlag _ _)
        · exact (sameSources_setFlag o name).trans (ih h)
    · cases h

theorem sameSources_of_applyFlag {short : Bool} {attached : Option Text}
    (h : applyFlag o name short attached = .ok o') : o.SameSources o' := by
  cases attached with
  | none =>
    cases h
    exact sameSources_setFlag o name
  | some letters =>
    cases short with
    | true => exact sameSources_of_setLetters h
    | false => cases h

theorem sameSources_takeRun (p : Progress) (run : List Word) :
    p.options.SameSources (p.takeRun run).options := by
  unfold Progress.takeRun
  split
  · exact .refl _
  · exact ⟨rfl, rfl, rfl⟩

end Flags

section Gains

variable {o o' o'' : Options} {words words' : List Word} {name : OptionName} {short : Bool}

/-- Words that give no value to an option that takes one add no sources. -/
theorem Gains.of_sameSources (h : o.SameSources o') (hgains : o'.Gains o'' words')
    (hwords : ∀ name : OptionName, name.takesValue = true →
      Word.values name words = Word.values name words') : o.Gains o'' words where
  repo := by rw [hgains.repo, h.repo, hwords .repo rfl]
  mailmapFiles := by rw [hgains.mailmapFiles, h.mailmapFiles, hwords .mailmapFile rfl]
  mailmapBlobs := by rw [hgains.mailmapBlobs, h.mailmapBlobs, hwords .mailmapBlob rfl]

/-- A value that an option is given comes before those of the words after it. -/
theorem Gains.of_setValue {v : OptionValue} (hgains : (o.setValue v name).Gains o' words')
    (hwords : ∀ other : OptionName, Word.values other words =
      if name = other then v :: Word.values other words' else Word.values other words') :
    o.Gains o' words := by
  obtain ⟨hrepo, hfiles, hblobs⟩ := hgains
  have hlast (vs : List OptionValue) (d : Option OptionValue) :
      (v :: vs).getLast?.or d = vs.getLast?.or (some v) := by
    rw [List.getLast?_cons]
    cases vs.getLast? <;> rfl
  refine ⟨?_, ?_, ?_⟩
  · rw [hrepo, hwords]
    cases name <;> simp [setValue, hlast]
  · rw [hfiles, hwords]
    cases name <;> simp [setValue]
  · rw [hblobs, hwords]
    cases name <;> simp [setValue]

/-- **Reading the words of a command line** takes in the sources that they name. -/
theorem gains_of_consume {p p' : Progress} (h : consume p words = .ok p') :
    p.options.Gains p'.options words := by
  induction p, words using consume.induct generalizing p' with
  | case1 p =>
    rw [consume] at h
    cases h
    exact ⟨rfl, (List.append_nil _).symm, (List.append_nil _).symm⟩
  | case2 p t rest ih =>
    rw [consume] at h
    exact (ih h).of_sameSources (.refl _) fun name _ => rfl
  | case3 p o short htakes value rest ih =>
    rw [consume, if_pos htakes] at h
    exact (ih h).of_setValue fun other => rfl
  | case4 p o short htakes value rest ih =>
    rw [consume, if_pos htakes] at h
    exact (ih h).of_setValue fun other => rfl
  | case5 p o short rest htakes hnone =>
    rw [consume, if_pos htakes] at h
    · cases h
    · exact hnone
  | case6 p o short attached rest hflag options happly ih =>
    rw [consume.eq_def] at h
    simp only [if_neg hflag, happly] at h
    refine (ih h).of_sameSources (sameSources_of_applyFlag happly) fun name hname => ?_
    exact Word.values_option_of_ne fun heq => hflag (heq ▸ hname)
  | case7 p o short attached rest hflag c happly =>
    rw [consume.eq_def] at h
    simp only [if_neg hflag, happly] at h
    cases h
  | case8 p word rest hunknown hoption ih =>
    rw [consume] at h
    · refine (ih h).of_sameSources (sameSources_takeRun p _) fun name _ => ?_
      rw [Word.values_dropWhile_canBeContact]
      cases word with
      | argument t => rfl
      | terminator => rfl
      | option o short attached => exact (hoption o short attached rfl).elim
      | unknown t => exact (hunknown t rfl).elim
    · exact hunknown
    · exact hoption

end Gains

/-! ## A command line -/

/-- Options that name the sources that words name, or the repository in the current
directory where these name none. -/
structure Names (o : Options) (words : List Word) : Prop where
  repo : o.repo =
    if Word.values .repo words = [] ∧ Word.values .mailmapFile words = [] ∧
        Word.values .mailmapBlob words = [] then some (.text ['.'])
    else (Word.values .repo words).getLast?
  mailmapFiles : o.mailmapFiles = Word.values .mailmapFile words
  mailmapBlobs : o.mailmapBlobs = Word.values .mailmapBlob words

section Names

variable {o o' : Options} {words words' : List Word}

theorem Names.sameSources (h : o.Names words) (h' : o'.Names words')
    (hwords : ∀ name : OptionName, name.takesValue = true →
      Word.values name words' = Word.values name words) : o.SameSources o' where
  repo := by
    rw [h'.repo, h.repo, hwords .repo rfl, hwords .mailmapFile rfl, hwords .mailmapBlob rfl]
  mailmapFiles := by rw [h'.mailmapFiles, h.mailmapFiles, hwords .mailmapFile rfl]
  mailmapBlobs := by rw [h'.mailmapBlobs, h.mailmapBlobs, hwords .mailmapBlob rfl]

theorem names_withDefaults (h : initial.Gains o words) : o.withDefaults.Names words := by
  have hrepo : o.repo = (Word.values .repo words).getLast? := h.repo.trans (Option.or_none)
  have hfiles : o.mailmapFiles = Word.values .mailmapFile words := h.mailmapFiles
  have hblobs : o.mailmapBlobs = Word.values .mailmapBlob words := h.mailmapBlobs
  have hnone : (o.repo.isNone && o.mailmapFiles.isEmpty && o.mailmapBlobs.isEmpty) = true ↔
      Word.values .repo words = [] ∧ Word.values .mailmapFile words = [] ∧
        Word.values .mailmapBlob words = [] := by
    rw [hrepo, hfiles, hblobs]
    simp [and_assoc]
  unfold withDefaults
  split
  · next hempty => exact ⟨(if_pos (hnone.mp hempty)).symm, hfiles, hblobs⟩
  · next hempty =>
    exact ⟨hrepo.trans (if_neg fun hvalues => hempty (hnone.mpr hvalues)).symm, hfiles, hblobs⟩

/-- **The sources of a command line** that is read are those that its words name. -/
theorem exists_words_of_read {c : Catalogue} {argv : List Text} (h : read c argv = .ok o) :
    ∃ words, Word.classify argv = .ok words ∧ o.Names words := by
  unfold read at h
  split at h
  · cases h
  obtain ⟨o₀, ho₀, h⟩ := Except.bind_eq_ok_iff.mp h
  have hwords := Except.mapError_eq_ok_iff.mp ho₀
  obtain ⟨words, hclassify, hwords⟩ := Except.bind_eq_ok_iff.mp hwords
  obtain ⟨p, hp, hextras⟩ := Except.bind_eq_ok_iff.mp hwords
  refine ⟨words, Except.mapError_eq_ok_iff.mp hclassify, ?_⟩
  have hoptions : p.options = o₀ := by
    split at hextras
    · exact Except.ok.inj hextras
    · cases hextras
  have hdefaults : o₀.withDefaults = o := by
    cases hhelp : o₀.help with
    | true =>
      rw [hhelp] at h
      cases h
    | false =>
      cases hconflict : o₀.conflict? with
      | some t =>
        rw [hhelp, hconflict] at h
        cases h
      | none =>
        rw [hhelp, hconflict] at h
        exact Except.ok.inj h
  rw [← hdefaults, ← hoptions]
  exact names_withDefaults (gains_of_consume hp)

-- files and blobs may stand in any order between each other
example : (read .plain ["--mailmap-blob=b".toList, "--mailmap-file".toList, "f".toList,
    "--list".toList, "--mailmap-file=g".toList]).map (fun o => (o.mailmapFiles, o.mailmapBlobs)) =
    .ok ([.text "f".toList, .text "g".toList], [.text "b".toList]) := by cbv

end Names

end Options

end Attribution
