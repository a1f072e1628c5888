import Attribution.Proofs.Repository.Trail

/-!
# What git is run for

A git repository stays in its directory, and whatever it is asked for, the commands that it
runs are added to those that it ran before.

- `GitRepository.Extends`: a repository after some more commands in its directory.
- `GitRepository.RanMore`: one of which no more is known for that.
- `GitRepository.along_answer`, `GitRepository.along_blob`: what the questions do to a
  repository.
- `GitRepository.extends_of_holds`: what conversations do to it.
-/

namespace Attribution.GitRepository

/-! ## Repositories after more commands -/

/-- A repository in the same directory that ran more commands, all of them there. -/
structure Extends (ρ ρ' : GitRepository) : Prop where
  path : ρ'.path = ρ.path
  runs : ∃ more, ρ'.runs = ρ.runs ++ more ∧ ∀ words ∈ more, words.head? = some ρ.path

/-- A repository that ran more commands and of which no more is known than before. -/
structure RanMore (ρ ρ' : GitRepository) : Prop extends Extends ρ ρ' where
  bare : ρ'.bare = ρ.bare
  top : ρ'.top = ρ.top

section Extends

variable {ρ ρ' ρ'' : GitRepository}

theorem Extends.refl (ρ : GitRepository) : Extends ρ ρ :=
  ⟨rfl, [], (List.append_nil _).symm, fun _ h => absurd h List.not_mem_nil⟩

theorem Extends.trans (h : Extends ρ ρ') (h' : Extends ρ' ρ'') : Extends ρ ρ'' := by
  obtain ⟨hpath, more, hruns, hmore⟩ := h
  obtain ⟨hpath', more', hruns', hmore'⟩ := h'
  rw [hpath] at hmore'
  refine ⟨hpath'.trans hpath, more ++ more', ?_, List.forall_mem_append.mpr ⟨hmore, hmore'⟩⟩
  rw [hruns', hruns, List.append_assoc]

end Extends

/-! ## Questions -/

section Questions

variable {h : Host} {ρ ρ' : GitRepository}

/-- Wherever a repository is led, it ran the commands in its directory. -/
theorem Leads.extends {G : GitRepository → List Text → Prop} (hleads : Leads G h ρ ρ') :
    Extends ρ ρ' := by
  obtain ⟨t, ht, -⟩ := hleads
  refine ⟨ht.path_eq, _, ht.runs_eq, fun words hwords => ?_⟩
  obtain ⟨run, -, rfl⟩ := List.mem_map.mp hwords
  rfl

theorem Leads.ranMore (hleads : Leads Other h ρ ρ') : RanMore ρ ρ' := by
  have hextends := hleads.extends
  obtain ⟨t, ht, -⟩ := hleads
  have hother := ht.forall_words (p := fun words => words.length ≠ 2) fun _ _ hwords => hwords
  refine ⟨hextends, ht.known_eq lawful_bareness ?_, ht.known_eq lawful_location ?_⟩
  · exact fun run hrun => if_neg fun hwords => hother run hrun (by rw [hwords]; rfl)
  · exact fun run hrun => if_neg fun hwords => hother run hrun (by rw [hwords]; rfl)

/-- **A blob is read by commands only**, and nothing is kept of it. -/
theorem along_blob (spec : Text) : Along (blob h spec) RanMore :=
  (leads_blob spec).mono fun _ _ hleads => hleads.ranMore

/-- **Whatever a repository is asked for**, it runs commands in its directory. -/
theorem along_answer (call : RepositoryCall) : Along ((repository h).answer call) Extends :=
  (leads_answer call).mono fun _ _ hleads => hleads.extends

/-- All commands of a conversation are run in the repository's directory. -/
theorem extends_of_holds {es : List Exchange} (hheld : (repository h).Holds ρ es ρ') :
    Extends ρ ρ' := by
  induction hheld with
  | nil ρ => exact .refl ρ
  | @cons e es ρ ρ₁ ρ' hanswers _ ih =>
    have hfirst := along_answer (h := h) e.call ρ
    rw [show ((repository h).answer e.call).run.run ρ = _ from hanswers] at hfirst
    exact hfirst.trans ih

end Questions

end Attribution.GitRepository
