import Attribution.Contact
import Attribution.Proofs.Loading.FromText
import Attribution.Proofs.Rule.Says
import Attribution.Proofs.Store.Lookup

/-!
# Contacts written and read again

The grammar of a contact, and what comes of the text of a resolved one if it is a contact
once more.

- `Contact.Spells`: the contact that a text spells.
- `Contact.read_eq_ok_iff`, `Contact.read_eq_error_iff`: this is the one that is read, and
  other texts are refused.
- `Contact.WellFormed`: a contact whose parts stand in a text as they are.
- `Contact.spells_write_iff`: what the text of such a contact spells.
- `Contact.Misnamed`: the rule for a contact gives a name with a closing bracket.
- `Contact.WellFormed.resolve`: contacts that are well formed are so when they are resolved.
- `Contact.resolved_fed_back`: which resolved contacts come back, and which do not.
-/

namespace Attribution.Contact

/-! ## The grammar -/

/-- The contact that a text spells: a mention, as on the lines of a mailmap, with nothing
but blanks after it. Here its name has no closing bracket. -/
inductive Spells (t : Text) : Contact → Prop
  | mk {m : Mention} (hm : m.Opens t) (hclose : '>' ∉ m.name)
      (hrest : ∀ c ∈ m.rest, Text.isBlank c = true) :
      Spells t ⟨m.name.stripped?, m.email.strip⟩

section Reading

variable {t : Text} {c : Contact}

theorem forall_isAngle_iff : (∀ ch ∈ t, (!isAngle ch) = true) ↔ '<' ∉ t ∧ '>' ∉ t := by
  simp only [isAngle, Bool.not_eq_true', Bool.or_eq_false_iff, beq_eq_false_iff_ne]
  constructor
  · intro h
    exact ⟨fun hopen => (h _ hopen).1 rfl, fun hclose => (h _ hclose).2 rfl⟩
  · rintro ⟨hopen, hclose⟩ ch hch
    exact ⟨ne_of_mem_of_not_mem hch hopen, ne_of_mem_of_not_mem hch hclose⟩

/-- The brackets are looked for in the text without the blanks at its ends. -/
theorem read?_eq_some_iff_strip :
    read? t = some c ↔
      ∃ name email : Text, t.strip = name ++ '<' :: email ++ ['>'] ∧
        ('<' ∉ name ∧ '>' ∉ name) ∧ ('<' ∉ email ∧ '>' ∉ email) ∧
        c = ⟨name.stripped?, email.strip⟩ := by
  have hfree : ∀ u : Text, ∀ ch ∈ u.takeWhile (!isAngle ·), (!isAngle ch) = true :=
    fun u ch hch => List.mem_takeWhile_imp (p := (!isAngle ·)) hch
  constructor
  · intro h
    unfold read? at h
    split at h
    · next inside hname =>
      split at h
      · next hemail =>
        cases h
        have hsplit := List.takeWhile_append_dropWhile (p := (!isAngle ·)) (l := t.strip)
        have hsplit' := List.takeWhile_append_dropWhile (p := (!isAngle ·)) (l := inside)
        rw [hname] at hsplit
        rw [hemail] at hsplit'
        refine ⟨t.strip.takeWhile (!isAngle ·), inside.takeWhile (!isAngle ·), ?_,
          forall_isAngle_iff.mp (hfree _), forall_isAngle_iff.mp (hfree _), ?_⟩
        · rw [List.append_assoc, List.cons_append, hsplit']
          exact hsplit.symm
        · rw [← Rule.presentName?_eq_stripped?]
          rfl
      · cases h
    · cases h
  · rintro ⟨name, email, ht, hname, hemail, rfl⟩
    obtain ⟨htake, hdrop⟩ :=
      span_append_cons (forall_isAngle_iff.mpr hname) (x := '<') rfl (email ++ ['>'])
    obtain ⟨htake', hdrop'⟩ :=
      span_append_cons (forall_isAngle_iff.mpr hemail) (x := '>') rfl []
    rw [List.append_assoc, List.cons_append] at ht
    rw [read?, ht, hdrop]
    simp only [hdrop', htake, htake', ← Rule.presentName?_eq_stripped?, Rule.presentName?]

/-- A name and an email in angle brackets have no blanks at their ends if there is none in
front of the name. -/
theorem strip_mention {name : Text} (h : ∀ ch ∈ name.head?, Text.isBlank ch = false)
    (email : Text) :
    Text.strip (name ++ '<' :: email ++ ['>']) = name ++ '<' :: email ++ ['>'] := by
  refine Text.strip_eq_self_iff.mpr ⟨?_, fun ch hch => ?_⟩
  · cases name with
    | nil => simp [show Text.isBlank '<' = false from rfl]
    | cons first others => simpa using h
  · rw [List.getLast?_concat] at hch
    cases hch
    rfl

/-- **The contact that is read is the one that the text spells.** -/
theorem read?_eq_some_iff : read? t = some c ↔ Spells t c := by
  rw [read?_eq_some_iff_strip]
  -- blanks in front of the text are blanks in front of its name
  have hfront : ∀ {before : Text}, (∀ ch ∈ before, Text.isBlank ch = true) → ∀ name : Text,
      Text.stripped? (before ++ name) = name.stripped? := fun hbefore name => by
    have hstrip : Text.strip (_ ++ name) = name.strip := trim_append_left hbefore name
    rw [Text.stripped?, hstrip]
    rfl
  constructor
  · rintro ⟨name, email, hstrip, ⟨hopen, hclose⟩, ⟨hopen', hclose'⟩, rfl⟩
    obtain ⟨before, after, ht, hbefore, hafter⟩ := t.exists_between_strip
    have hangle : ∀ ch : Char, Text.isBlank ch = false → ch ∉ before := fun ch hch hmem => by
      rw [hbefore ch hmem] at hch
      cases hch
    have hm : Mention.Opens ⟨before ++ name, email, after⟩ t := by
      refine ⟨?_, ?_, hopen', hclose'⟩
      · rw [ht, hstrip]
        simp
      · simp [hopen, hangle '<' rfl]
    have hspells := Spells.mk hm (by simp [hclose, hangle '>' rfl]) hafter
    rwa [hfront hbefore] at hspells
  · intro h
    cases h with
    | @mk m hm hclose hrest =>
      obtain ⟨name, email, rest⟩ := m
      obtain ⟨before, hname, hbefore⟩ := exists_append_trimStart Text.isBlank name
      have hstart : ∀ ch ∈ (trimStart Text.isBlank name).head?, Text.isBlank ch = false :=
        fun ch hch => head?_trimStart hch
      generalize trimStart Text.isBlank name = start at hname hstart
      subst hname
      obtain ⟨rfl, hopen, hopen', hclose'⟩ := hm
      refine ⟨start, email, ?_, ⟨fun h => hopen (List.mem_append_right before h),
        fun h => hclose (List.mem_append_right before h)⟩, ⟨hopen', hclose'⟩, ?_⟩
      · have hstrip := Text.strip_between hbefore hrest (start ++ '<' :: email ++ ['>'])
        rw [strip_mention hstart] at hstrip
        rw [← hstrip]
        simp
      · rw [hfront hbefore]

theorem read_eq_ok_iff : read t = .ok c ↔ Spells t c := by
  rw [← read?_eq_some_iff, read]
  cases read? t with
  | none => simp
  | some c' => simp

theorem read_eq_error_iff {e : Failure} :
    read t = .error e ↔ (∀ c, ¬ Spells t c) ∧ e = .parse (.contact t) := by
  simp only [← read_eq_ok_iff]
  rw [read]
  cases read? t with
  | none => simp [eq_comm]
  | some c' => simp

end Reading

/-! ## Well-formed contacts -/

/-- A contact whose name and email stand in a text as they are. The name may have a closing
bracket, for the names on the lines of a mailmap may have one. -/
structure WellFormed (c : Contact) : Prop where
  name : ∀ n ∈ c.name, n ≠ [] ∧ n.strip = n ∧ '<' ∉ n
  email : c.email.strip = c.email ∧ '<' ∉ c.email ∧ '>' ∉ c.email

section Writing

variable {t : Text} {c c' : Contact}

/-- A contact that a text spells is well formed, and its name has no closing bracket. -/
theorem Spells.wellFormed (h : Spells t c) : c.WellFormed ∧ ∀ n ∈ c.name, '>' ∉ n := by
  cases h with
  | @mk m hm hclose _ =>
    refine ⟨⟨fun n hn => ?_, m.email.strip_strip, fun h => hm.noOpen (Text.mem_of_mem_strip h),
      fun h => hm.noClose (Text.mem_of_mem_strip h)⟩,
      fun n hn h => hclose (Text.subset_of_stripped? hn h)⟩
    have hopen : '<' ∉ n := fun h => hm.name (Text.subset_of_stripped? hn h)
    rw [← Rule.presentName?_eq_stripped?] at hn
    obtain ⟨rfl, hne⟩ := Rule.presentName?_eq_some_iff.mp hn
    exact ⟨hne, m.name.strip_strip, hopen⟩

/-- The text of a well-formed contact is its mention written out. -/
theorem write_eq (h : c.WellFormed) : c.write = Mention.written c.name c.email := by
  obtain ⟨name, email⟩ := c
  cases name with
  | none => rfl
  | some n =>
    cases n with
    | nil => exact absurd rfl (h.name [] rfl).1
    | cons first rest => simp [write, Mention.written, Mention.nameText]

theorem opens_write (h : c.WellFormed) :
    Mention.Opens ⟨Mention.nameText c.name, c.email, []⟩ c.write := by
  refine ⟨?_, fun hmem => ?_, h.email.2.1, h.email.2.2⟩
  · rw [write_eq h]
    simp [Mention.written, Rule.bracketed]
  · rcases Mention.mem_nameText hmem with ⟨n, hn, hopen⟩ | heq
    · exact (h.name n hn).2.2 hopen
    · exact absurd heq (by decide)

/-- **What the text of a well-formed contact spells**: this contact, unless its name has a
closing bracket, and then none. -/
theorem spells_write_iff (h : c.WellFormed) :
    Spells c.write c' ↔ (∀ n ∈ c.name, '>' ∉ n) ∧ c' = c := by
  have hself : (⟨(Mention.nameText c.name).stripped?, c.email.strip⟩ : Contact) = c := by
    have hname := Mention.presentName?_nameText fun n hn => ⟨(h.name n hn).1, (h.name n hn).2.1⟩
    rw [← Rule.presentName?_eq_stripped?, hname, h.email.1]
  constructor
  · intro hspells
    cases hspells with
    | @mk m hm hclose _ =>
      -- a text starts with one mention only
      have hread := Mention.ofText?_eq_some_iff_opens.mpr hm
      rw [Mention.ofText?_eq_some_iff_opens.mpr (opens_write h)] at hread
      cases hread
      refine ⟨fun n hn hmem => hclose ?_, hself⟩
      rw [hn]
      exact List.mem_append_left _ hmem
  · rintro ⟨hclose, rfl⟩
    have hspells := Spells.mk (opens_write h) (fun hmem => ?_) (by simp)
    · rwa [hself] at hspells
    · rcases Mention.mem_nameText hmem with ⟨n, hn, hmem⟩ | heq
      · exact hclose n hn hmem
      · exact absurd heq (by decide)

/-- The parts of a contact are written the same way if they are loosely typed. -/
theorem writeData_ofText? (c : Contact) :
    writeData (.ofText? c.name) (.text c.email) = .ok c.write := by
  obtain ⟨name, email⟩ := c
  rcases name with - | (- | ⟨first, rest⟩)
  · rfl
  · rfl
  · rfl

end Writing

/-! ## Resolved contacts -/

/-- The rule that applies to a contact gives a name with a closing bracket. -/
def Misnamed (st : Store) (c : Contact) : Prop :=
  ∃ r n, st.find? c.name c.email = some r ∧ r.properName = some n ∧ '>' ∈ n

section Resolving

variable {st : Store} {t : Text} {c : Contact} {r : Rule}

theorem resolve_of_find?_eq_none (h : st.find? c.name c.email = none) : c.resolve st = c := by
  simp only [resolve, Store.resolve_of_find?_eq_none h]

theorem resolve_of_find? (h : st.find? c.name c.email = some r) :
    c.resolve st = ⟨r.properName <|> c.name, r.properEmail.getD c.email⟩ := by
  simp only [resolve, Store.resolve_of_find? h]

/-- **Contacts that are well formed stay so** when a store that is filled from text resolves
them. -/
theorem WellFormed.resolve (h : c.WellFormed) (hst : st.FromText) : (c.resolve st).WellFormed := by
  cases hfind : st.find? c.name c.email with
  | none => rwa [resolve_of_find?_eq_none hfind]
  | some r =>
    obtain ⟨-, hwell⟩ := hst.fromLine r (Store.mem_toList_of_find? hfind)
    rw [resolve_of_find? hfind]
    constructor
    · intro n hn
      cases hr : r.properName with
      | none => exact h.name n (by simpa [hr] using hn)
      | some n' =>
        obtain rfl : n' = n := by simpa [hr] using hn
        obtain ⟨hne, hstripped, hopen, -, -⟩ := hwell.properName n' hr
        exact ⟨hne, hstripped, hopen⟩
    · cases hr : r.properEmail with
      | none => exact h.email
      | some e =>
        obtain ⟨-, hstripped, hopen, hclose, -⟩ := hwell.properEmail e hr
        exact ⟨hstripped, hopen, hclose⟩

/-- The name of a resolved contact has a closing bracket where the rule gives it one. -/
theorem forall_not_mem_resolve_iff (h : ∀ n ∈ c.name, '>' ∉ n) :
    (∀ n ∈ (c.resolve st).name, '>' ∉ n) ↔ ¬ c.Misnamed st := by
  cases hfind : st.find? c.name c.email with
  | none =>
    rw [resolve_of_find?_eq_none hfind]
    refine iff_of_true h ?_
    rintro ⟨r, n, hr, -⟩
    rw [hfind] at hr
    cases hr
  | some r =>
    have hmisnamed : c.Misnamed st ↔ ∃ n ∈ r.properName, '>' ∈ n := by
      simp [Misnamed, hfind]
    rw [resolve_of_find? hfind, hmisnamed]
    cases hr : r.properName with
    | none => simpa using h
    | some n => simp

/-- **Resolved contacts fed back.** A contact that is read from a text and resolved by a
store that is filled from text comes back when its own text is read, unless the rule that
applies to it gives a name with a closing bracket. Then the text is refused. So a contact
that is not resolved always comes back. -/
theorem resolved_fed_back (hst : st.FromText) (hread : read t = .ok c) :
    writeData (.ofText? (c.resolve st).name) (.text (c.resolve st).email) =
        .ok (c.resolve st).write ∧
      (∀ c', read (c.resolve st).write = .ok c' ↔ ¬ c.Misnamed st ∧ c' = c.resolve st) ∧
      (∀ e, read (c.resolve st).write = .error e ↔
        c.Misnamed st ∧ e = .parse (.contact (c.resolve st).write)) ∧
      read c.write = .ok c := by
  obtain ⟨hwell, hclose⟩ := (read_eq_ok_iff.mp hread).wellFormed
  have hspells : ∀ c', Spells (c.resolve st).write c' ↔ ¬ c.Misnamed st ∧ c' = c.resolve st :=
    fun c' => by rw [spells_write_iff (hwell.resolve hst), forall_not_mem_resolve_iff hclose]
  refine ⟨writeData_ofText? _, fun c' => read_eq_ok_iff.trans (hspells c'), fun e => ?_,
    read_eq_ok_iff.mpr ((spells_write_iff hwell).mpr ⟨hclose, rfl⟩)⟩
  rw [read_eq_error_iff]
  refine and_congr_left fun _ => ?_
  simp [hspells]

end Resolving

/-! ### A name with a closing bracket -/

/-- A mailmap that gives one person such a name, and another a new email. -/
def misnaming : Text := "Jane > Doe <jane@x>\n<joe@new> <Joe@old>".toList

theorem toList_misnaming :
    (Store.ofDocument misnaming).toList =
      [⟨some "Jane > Doe".toList, none, none, "jane@x".toList⟩,
        ⟨none, some "joe@new".toList, none, "Joe@old".toList⟩] := by
  rw [Store.toList_ofDocument (by decide) (by decide)]
  decide

/-- The contact with the new email comes back, and the one with the new name does not. -/
theorem resolved_fed_back_misnaming :
    (Store.ofDocument misnaming).FromText ∧
      (read "Joe<joe@OLD>\n".toList = .ok ⟨some "Joe".toList, "joe@OLD".toList⟩ ∧
        read "Joe <joe@new>".toList = .ok ⟨some "Joe".toList, "joe@new".toList⟩) ∧
      read " < Jane@X >".toList = .ok ⟨none, "Jane@X".toList⟩ ∧
        read "Jane > Doe <Jane@X>".toList =
          .error (.parse (.contact "Jane > Doe <Jane@X>".toList)) := by
  have hst := Store.fromText_ofDocument misnaming
  have hjoe : read "Joe<joe@OLD>\n".toList = .ok ⟨some "Joe".toList, "joe@OLD".toList⟩ := by
    decide
  have hjane : read " < Jane@X >".toList = .ok ⟨none, "Jane@X".toList⟩ := by decide
  have hfind : (Store.ofDocument misnaming).find? (some "Joe".toList) "joe@OLD".toList =
      some ⟨none, some "joe@new".toList, none, "Joe@old".toList⟩ := by
    rw [Store.find?_eq_search, toList_misnaming]
    decide
  have hfind' : (Store.ofDocument misnaming).find? none "Jane@X".toList =
      some ⟨some "Jane > Doe".toList, none, none, "jane@x".toList⟩ := by
    rw [Store.find?_eq_search, toList_misnaming]
    decide
  have hback := ((resolved_fed_back hst hjoe).2.1 _).mpr ⟨?_, rfl⟩
  have hrefused := ((resolved_fed_back hst hjane).2.2.1 _).mpr
    ⟨⟨_, _, hfind', rfl, by decide⟩, rfl⟩
  · rw [resolve_of_find? hfind] at hback
    rw [resolve_of_find? hfind'] at hrefused
    exact ⟨hst, ⟨hjoe, hback⟩, hjane, hrefused⟩
  · rintro ⟨r, n, hr, hn, -⟩
    rw [hfind] at hr
    cases hr
    cases hn

end Attribution.Contact
