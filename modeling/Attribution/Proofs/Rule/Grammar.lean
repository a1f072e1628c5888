import Attribution.Proofs.Text.Strip
import Attribution.Rule.Line

/-!
# What a line must look like to be read

The shape of a mention and of a line with a rule, said without the functions that
read them.

- `Mention.ofText?_eq_some_iff`: a text starts with a mention exactly if it is one
  written out.
- `Rule.ofLine?_eq_some_iff`: the two ways in which a line has a rule.
-/

namespace Attribution

/-- The longest start of a list inside a class ends where the first element outside
stands. -/
theorem span_append_cons {α : Type} {p : α → Bool} {xs : List α} {x : α}
    (hxs : ∀ y ∈ xs, p y = true) (hx : p x = false) (rest : List α) :
    (xs ++ x :: rest).takeWhile p = xs ∧
      (xs ++ x :: rest).dropWhile p = x :: rest := by
  have hneg : ¬ p x = true := by simp [hx]
  rw [List.takeWhile_append_of_pos hxs, List.dropWhile_append_of_pos hxs,
    List.takeWhile_cons_of_neg hneg, List.dropWhile_cons_of_neg hneg, List.append_nil]
  exact ⟨rfl, rfl⟩

namespace Mention

/-- **A mention is read where it is written**: a name without `<`, and after it an
email in angle brackets that holds none. -/
theorem ofText?_eq_some_iff {t : Text} {m : Mention} :
    ofText? t = some m ↔
      t = m.name ++ '<' :: m.email ++ '>' :: m.rest ∧
        '<' ∉ m.name ∧ '<' ∉ m.email ∧ '>' ∉ m.email := by
  constructor
  · intro h
    unfold ofText? at h
    split at h
    · cases h
    · next c inside hname =>
      split at h
      · next rest hemail =>
        cases h
        have hc : c = '<' := by
          have := List.head?_dropWhile_not (fun c => c != '<') t
          rw [hname] at this
          simpa using this
        -- both scans cut the text into what they pass over and what they stop at
        have hsplit := List.takeWhile_append_dropWhile (p := fun c => c != '<') (l := t)
        have hsplit' := List.takeWhile_append_dropWhile
          (p := fun c => c != '<' && c != '>') (l := inside)
        rw [hname, hc] at hsplit
        rw [hemail] at hsplit'
        refine ⟨?_, ?_, ?_, ?_⟩
        · show t = _ ++ '<' :: _ ++ '>' :: rest
          rw [List.append_assoc, List.cons_append, hsplit', hsplit]
        · intro hmem
          simpa using List.mem_takeWhile_imp hmem
        · intro hmem
          simpa using List.mem_takeWhile_imp hmem
        · intro hmem
          simpa using List.mem_takeWhile_imp hmem
      · cases h
  · rintro ⟨rfl, hname, hopen, hclose⟩
    have hname' : ∀ c ∈ m.name, (c != '<') = true := fun c hc => by
      have hne : c ≠ '<' := fun heq => hname (heq ▸ hc)
      simpa using hne
    have hemail' : ∀ c ∈ m.email, (c != '<' && c != '>') = true := fun c hc => by
      have hne : c ≠ '<' := fun heq => hopen (heq ▸ hc)
      have hne' : c ≠ '>' := fun heq => hclose (heq ▸ hc)
      simp [hne, hne']
    obtain ⟨htake, hdrop⟩ :=
      span_append_cons hname' (x := '<') rfl (m.email ++ '>' :: m.rest)
    obtain ⟨htake', hdrop'⟩ := span_append_cons hemail' (x := '>') rfl m.rest
    rw [List.append_assoc, List.cons_append, ofText?, hdrop]
    simp only [hdrop', htake, htake']

end Mention

namespace Rule

/-- A line with two mentions has a rule if the second email is not blank. -/
theorem ofTwo?_eq_some_iff {first second : Mention} {r : Rule} :
    ofTwo? first second = some r ↔
      second.email.strip ≠ [] ∧
        r = ⟨presentName? first.name, presentName? first.email,
          presentName? second.name, second.email.strip⟩ := by
  rw [ofTwo?, Option.ite_none_left_eq_some, List.isEmpty_iff, Option.some.injEq,
    eq_comm (a := r)]

/-- A line with one mention has a rule if the email is not blank. -/
theorem ofOne?_eq_some_iff {only : Mention} {r : Rule} :
    ofOne? only = some r ↔
      only.email.strip ≠ [] ∧
        r = ⟨presentName? only.name, none, none, only.email.strip⟩ := by
  rw [ofOne?, Option.ite_none_left_eq_some, List.isEmpty_iff, Option.some.injEq,
    eq_comm (a := r)]

/-- **Which lines have a rule.** The line is no comment and starts with a mention.
After it comes a second mention, or else nothing that holds a `<`. -/
theorem ofLine?_eq_some_iff {line : Text} {r : Rule} :
    ofLine? line = some r ↔
      Line.isComment line.strip = false ∧
        ∃ first, Mention.ofText? line.strip = some first ∧
          ((∃ second, Mention.ofText? (Line.remainder first) = some second ∧
              ofTwo? first second = some r) ∨
            Mention.ofText? (Line.remainder first) = none ∧
              '<' ∉ Line.remainder first ∧ ofOne? first = some r) := by
  constructor
  · intro h
    unfold ofLine? at h
    dsimp only at h
    split at h
    · cases h
    · next hcomment =>
      refine ⟨by simpa using hcomment, ?_⟩
      split at h
      · cases h
      · next first hfirst =>
        refine ⟨first, hfirst, ?_⟩
        split at h
        · next second hsecond => exact .inl ⟨second, hsecond, h⟩
        · next hsecond =>
          split at h
          · cases h
          · next hopen => exact .inr ⟨hsecond, hopen, h⟩
  · rintro ⟨hcomment, first, hfirst, h⟩
    unfold ofLine?
    dsimp only
    rw [hcomment, hfirst]
    rcases h with ⟨second, hsecond, h⟩ | ⟨hsecond, hopen, h⟩
    · simpa [hsecond] using h
    · simpa [hsecond, hopen] using h

end Rule

end Attribution
