import Attribution.Proofs.Rule.Fields
import Attribution.Proofs.Rule.WellFormed

/-!
# Rules written and read again

- `Rule.toLine_eq`: the two layouts of a rule's line.
- `Rule.lineOfFields_fields`: loosely typed fields are written the same way.
- `Rule.ofLine?_toLine`: a well-formed rule is what is read from its line.
- `Document.rules_toLine_iff`: only a well-formed rule is.
- `Document.round_trip`: this, and that it covers every rule that is ever read.
-/

namespace Attribution

/-! ## The text of a mention -/

namespace Mention

/-- A name as it stands before an email, with a space after it. -/
def nameText : Option Text → Text
  | none => []
  | some n => n ++ [' ']

/-- A mention written out. -/
def written (name : Option Text) (email : Text) : Text :=
  nameText name ++ Rule.bracketed email

section Written

variable {name : Option Text} {email : Text}

/-- A name without blanks at its ends is read as it was before it was written. -/
theorem presentName?_nameText (hname : ∀ n ∈ name, n ≠ [] ∧ n.strip = n) :
    Rule.presentName? (nameText name) = name := by
  cases name with
  | none => rfl
  | some n =>
    obtain ⟨hne, hstrip⟩ := hname n rfl
    rw [Rule.presentName?_eq_some_iff]
    exact ⟨(Text.strip_append_singleton (c := ' ') rfl n).trans hstrip, hne⟩

/-- A character of a written name is one of the name, or the space after it. -/
theorem mem_nameText {c : Char} (h : c ∈ nameText name) :
    (∃ n ∈ name, c ∈ n) ∨ c = ' ' := by
  cases name with
  | none => exact absurd h List.not_mem_nil
  | some n =>
    rcases List.mem_append.mp h with h | h
    · exact .inl ⟨n, rfl, h⟩
    · exact .inr (List.mem_singleton.mp h)

theorem ofText?_written (hname : ∀ n ∈ name, n.IsName) (hopen : '<' ∉ email)
    (hclose : '>' ∉ email) (rest : Text) :
    ofText? (written name email ++ rest) = some ⟨nameText name, email, rest⟩ := by
  refine ofText?_eq_some_iff.mpr ⟨?_, fun h => ?_, hopen, hclose⟩
  · simp [written, Rule.bracketed]
  · rcases mem_nameText h with ⟨n, hn, hmem⟩ | heq
    · exact (hname n hn).noOpen hmem
    · exact absurd heq (by decide)

/-- A written mention starts with a character of a name or with a bracket: with no
blank and no comment mark. -/
theorem head?_written (hname : ∀ n ∈ name, n.IsName) (rest : Text) :
    ∀ c ∈ (written name email ++ rest).head?, Text.isBlank c = false ∧ c ≠ '#' := by
  intro c hc
  cases name with
  | none =>
    cases hc
    exact ⟨rfl, by decide⟩
  | some n =>
    obtain ⟨hne, hstrip, -, -, hhash⟩ := hname n rfl
    obtain ⟨first, rest', rfl⟩ := List.exists_cons_of_ne_nil hne
    cases hc
    exact ⟨(Text.strip_eq_self_iff.mp hstrip).1 _ rfl, fun heq => hhash (heq ▸ rfl)⟩

theorem isComment_written (hname : ∀ n ∈ name, n.IsName) (email rest : Text) :
    Line.isComment (written name email ++ rest) = false := by
  rw [Line.isComment, beq_eq_false_iff_ne]
  exact fun h => (head?_written hname rest '#' h).2 rfl

/-- A written mention ends with a bracket, whatever stands before it. -/
theorem getLast?_written (before : Text) :
    ∀ c ∈ (before ++ written name email).getLast?, Text.isBlank c = false := by
  intro c hc
  have hlast : before ++ written name email =
      (before ++ nameText name ++ '<' :: email) ++ ['>'] := by
    simp [written, Rule.bracketed]
  rw [hlast, List.getLast?_concat] at hc
  cases hc
  rfl

/-- What starts and ends with a mention has no blanks at its ends. -/
theorem strip_written (hname : ∀ n ∈ name, n.IsName) (rest before : Text)
    {name' : Option Text} {email' : Text}
    (hlast : written name email ++ rest = before ++ written name' email') :
    (written name email ++ rest).strip = written name email ++ rest := by
  refine Text.strip_eq_self_iff.mpr ⟨fun c hc => (head?_written hname rest c hc).1, ?_⟩
  rw [hlast]
  exact getLast?_written before

theorem oneLine_written (hname : ∀ n ∈ name, n.IsName) (hemail : '\n' ∉ email) :
    '\n' ∉ written name email := by
  intro h
  rcases List.mem_append.mp h with h | h
  · rcases mem_nameText h with ⟨n, hn, hmem⟩ | heq
    · exact (hname n hn).oneLine hmem
    · exact absurd heq (by decide)
  · simp [Rule.bracketed, hemail] at h

end Written

end Mention

namespace Rule

/-! ## The line of a rule -/

/-- A part, and a separator before the others if there are any. -/
theorem join_cons {sep part : Text} {parts : List Text} (h : parts ≠ []) :
    Text.join sep (part :: parts) = part ++ sep ++ Text.join sep parts := by
  cases parts with
  | nil => exact absurd rfl h
  | cons next parts => rfl

/-- Parts with a space between them, the first of which is there or not. -/
theorem join_toList_append (name : Option Text) (part : Text) (parts : List Text) :
    Text.join [' '] (name.toList ++ part :: parts) =
      Mention.nameText name ++ Text.join [' '] (part :: parts) := by
  cases name <;> rfl

/-- **The two layouts of a rule's line**: one mention if there is neither a proper
email nor a commit name, and else two. -/
theorem toLine_eq (r : Rule) :
    r.toLine =
      if r.properEmail = none ∧ r.commitName = none then
        Mention.written r.properName r.commitEmail
      else
        Mention.written r.properName (r.properEmail.getD []) ++
          ' ' :: Mention.written r.commitName r.commitEmail := by
  unfold toLine lineParts
  by_cases h : r.properEmail = none ∧ r.commitName = none
  · have hshort : (r.properEmail.isNone && r.commitName.isNone) = true := by simp [h]
    rw [if_pos h, if_pos hshort, join_toList_append]
    rfl
  · have hlong : ¬ (r.properEmail.isNone && r.commitName.isNone) = true := by
      simpa [-not_and] using h
    rw [if_neg h, if_neg hlong, List.cons_append, join_toList_append,
      join_cons (by simp), join_toList_append, Mention.written, List.append_assoc,
      List.append_assoc]
    rfl

theorem lineOfFields_fields (r : Rule) : lineOfFields r.fields = .ok r.toLine := by
  obtain ⟨name, email, commitName, commitEmail⟩ := r
  -- the layout depends on which fields are there, and an empty email counts as there
  cases email with
  | none =>
    cases commitName with
    | none => cases name <;> rfl
    | some n => cases name <;> rfl
  | some e =>
    cases e with
    | nil => cases name <;> cases commitName <;> rfl
    | cons c rest => cases name <;> cases commitName <;> rfl

theorem oneLine_toLine {r : Rule} (h : r.WellFormed) : '\n' ∉ r.toLine := by
  have hemail : '\n' ∉ r.properEmail.getD [] := by
    cases he : r.properEmail with
    | none => exact List.not_mem_nil
    | some e => exact (h.properEmail e he).oneLine
  rw [toLine_eq]
  split
  · exact Mention.oneLine_written h.properName h.commitEmail.oneLine
  · rw [List.mem_append, List.mem_cons]
    rintro (hmem | hmem | hmem)
    · exact Mention.oneLine_written h.properName hemail hmem
    · exact absurd hmem (by decide)
    · exact Mention.oneLine_written h.commitName h.commitEmail.oneLine hmem

theorem ofLine?_one {name : Option Text} {email : Text} (hname : ∀ n ∈ name, n.IsName)
    (hemail : email.IsEmail) :
    ofLine? (Mention.written name email) = some ⟨name, none, none, email⟩ := by
  have hread := Mention.ofText?_written hname hemail.noOpen hemail.noClose []
  have hstrip := Mention.strip_written hname [] []
    (List.append_nil (Mention.written name email))
  have hcomment := Mention.isComment_written hname email []
  rw [List.append_nil] at hread hstrip hcomment
  rw [ofLine?_eq_some_iff, hstrip]
  -- nothing follows the mention, so the email is the one in commits
  refine ⟨hcomment, _, hread, .inr ⟨rfl, List.not_mem_nil, ofOne?_eq_some_iff.mpr ?_⟩⟩
  rw [hemail.stripped,
    Mention.presentName?_nameText fun n hn => ⟨(hname n hn).nonempty, (hname n hn).stripped⟩]
  exact ⟨hemail.nonempty, rfl⟩

theorem ofLine?_two {r : Rule} (h : r.WellFormed) :
    ofLine? (Mention.written r.properName (r.properEmail.getD []) ++
      ' ' :: Mention.written r.commitName r.commitEmail) = some r := by
  obtain ⟨name, email, commitName, commitEmail⟩ := r
  obtain ⟨hname, hemail, hname', hemail'⟩ := h
  dsimp only at hname hemail hname' hemail' ⊢
  obtain ⟨hopen, hclose, hpresent⟩ :
      '<' ∉ email.getD [] ∧ '>' ∉ email.getD [] ∧
        presentName? (email.getD []) = email := by
    cases email with
    | none => exact ⟨List.not_mem_nil, List.not_mem_nil, rfl⟩
    | some e =>
      have he := hemail e rfl
      exact ⟨he.noOpen, he.noClose,
        presentName?_eq_some_iff.mpr ⟨he.stripped, he.nonempty⟩⟩
  have hstrip := Mention.strip_written hname _ _
    (List.append_cons (Mention.written name (email.getD [])) ' '
      (Mention.written commitName commitEmail))
  -- what is left after the first mention is the second as it was written
  have hremainder : Line.remainder ⟨Mention.nameText name, email.getD [],
      ' ' :: Mention.written commitName commitEmail⟩ =
        Mention.written commitName commitEmail ++ [] := by
    have hstrip' := Mention.strip_written hname' [] []
      (List.append_nil (Mention.written commitName commitEmail))
    have hcomment' := Mention.isComment_written hname' commitEmail []
    rw [Line.remainder, Text.strip_cons (c := ' ') rfl]
    rw [List.append_nil] at hstrip' hcomment' ⊢
    rw [hstrip', hcomment']
    rfl
  rw [ofLine?_eq_some_iff, hstrip]
  refine ⟨Mention.isComment_written hname _ _, _, Mention.ofText?_written hname hopen hclose _,
    .inl ⟨⟨Mention.nameText commitName, commitEmail, []⟩, ?_, ofTwo?_eq_some_iff.mpr ?_⟩⟩
  · rw [hremainder]
    exact Mention.ofText?_written hname' hemail'.noOpen hemail'.noClose []
  · have hread : ∀ {name : Option Text}, (∀ n ∈ name, n.IsName) →
        presentName? (Mention.nameText name) = name := fun h =>
      Mention.presentName?_nameText fun n hn => ⟨(h n hn).nonempty, (h n hn).stripped⟩
    rw [hemail'.stripped, hpresent, hread hname, hread hname']
    exact ⟨hemail'.nonempty, rfl⟩

/-- **A well-formed rule is read from its own line.** -/
theorem ofLine?_toLine {r : Rule} (h : r.WellFormed) : ofLine? r.toLine = some r := by
  rw [toLine_eq]
  split
  · next hshort =>
    obtain ⟨name, email, commitName, commitEmail⟩ := r
    obtain ⟨rfl, rfl⟩ := hshort
    exact ofLine?_one h.properName h.commitEmail
  · exact ofLine?_two h

end Rule

/-! ## Documents -/

namespace Document

theorem rules_of_oneLine {t : Text} (h : '\n' ∉ t) :
    rules t = (Rule.ofLine? t).toList := by
  rw [rules, Text.lines, Text.splitOn_eq_singleton h]
  cases hline : Rule.ofLine? t with
  | none => exact List.filterMap_cons_none hline
  | some r => exact List.filterMap_cons_some hline

/-- **The rules that a document of their line brings back** are the well-formed
ones. -/
theorem rules_toLine_iff {r : Rule} : rules r.toLine = [r] ↔ r.WellFormed := by
  constructor
  · intro h
    exact wellFormed_of_mem_rules (t := r.toLine) (h ▸ List.mem_cons_self ..)
  · intro h
    rw [rules_of_oneLine (Rule.oneLine_toLine h), Rule.ofLine?_toLine h]
    rfl

-- a closing bracket and a comment mark may stand inside a name
example : rules "a>b # c <> d <e>".toList =
    [⟨some "a>b # c".toList, none, some "d".toList, "e".toList⟩] := by decide

/-- **Rules survive being written and read again** exactly if they are well formed,
and every rule that is read from contents of any kind is. It makes no difference
whether a rule or its loosely typed fields are written. -/
theorem round_trip :
    (∀ r : Rule, Rule.lineOfFields r.fields = .ok r.toLine ∧
      ((decode (.text r.toLine)).map rules = .ok [r] ↔ r.WellFormed)) ∧
    ∀ (contents : Datum) (rs : List Rule), (decode contents).map rules = .ok rs →
      ∀ r ∈ rs, r.WellFormed ∧ (decode (.text r.toLine)).map rules = .ok [r] := by
  have hiff : ∀ r : Rule, (decode (.text r.toLine)).map rules = .ok [r] ↔ r.WellFormed :=
    fun r => by
      show Except.ok (rules r.toLine) = Except.ok [r] ↔ _
      rw [Except.ok.injEq]
      exact rules_toLine_iff
  refine ⟨fun r => ⟨r.lineOfFields_fields, hiff r⟩, fun contents rs h r hr => ?_⟩
  cases hdecode : decode contents with
  | error e =>
    rw [hdecode] at h
    cases h
  | ok t =>
    rw [hdecode] at h
    cases h
    have hwell := wellFormed_of_mem_rules hr
    exact ⟨hwell, (hiff r).mpr hwell⟩

end Document

end Attribution
