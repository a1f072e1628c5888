import Attribution.Loader
import Attribution.Proofs.Document
import Attribution.Proofs.Text.Lines

/-!
# Documents one after the other

What is read from contents that are put together, with a line feed between them, is what
is read from each.

- `Document.Reading`: what is read from a document, and how readings are put together.
- `Document.read`: the reading of contents.
- `Datum.Joins`, `Datum.JoinsAll`: contents with line feeds between them.
- `Document.ofText_append`: the reading of two texts.
- `Document.reading_of_joined`: the reading of contents that are put together, and what a
  single line has to do with the others.
-/

namespace Attribution

/-! ## Readings -/

/-- The report as it is if its line stands so many lines further down. -/
def LogLine.further (lines : Nat) : LogLine → LogLine
  | malformedLine number line => malformedLine (number + lines) line
  | report => report

namespace Document

/-- What is read from a document: its rules, the reports on its malformed lines, and how
many lines there are. -/
structure Reading where
  rules : List Rule
  reports : List LogLine
  lines : Nat
deriving DecidableEq

namespace Reading

/-- The reading of a text. -/
def ofText (t : Text) : Reading := ⟨Document.rules t, complaints t, t.lines.length⟩

/-- A reading and another from the lines below. -/
def append (x y : Reading) : Reading :=
  ⟨x.rules ++ y.rules, x.reports ++ y.reports.map (·.further x.lines), x.lines + y.lines⟩

/-- Readings from lines that stand below each other. -/
def concat (xs : List Reading) : Reading := xs.foldr append ⟨[], [], 0⟩

end Reading

/-- The reading of contents, if they can be decoded. -/
def read (d : Datum) : Except Failure Reading := (decode d).map Reading.ofText

theorem addContents_eq_read {σ : Type} (d : Datum) :
    (Loading.addContents d : Load σ Nat) = do
      let x ← Loading.attempt (read d)
      Loading.report x.reports
      Loading.addRules x.rules
      return x.rules.length := by
  rw [Loading.addContents, read]
  cases decode d <;> rfl

end Document

/-! ## Texts -/

namespace Document

theorem complaintsFrom_add (first n : Nat) (lines : List Text) :
    complaintsFrom (first + n) lines = (complaintsFrom first lines).map (·.further n) := by
  induction lines generalizing first with
  | nil => rfl
  | cons line rest ih =>
    have hrest := ih (first + 1)
    rw [Nat.add_right_comm] at hrest
    by_cases h : Line.isMalformed line
    · simp only [complaintsFrom, h, if_true, List.map_cons, hrest]
      rfl
    · simp only [complaintsFrom, h, Bool.false_eq_true, if_false, hrest]

/-- Malformed lines are reported one list of lines after the other. -/
theorem complaintsFrom_append (first : Nat) (xs ys : List Text) :
    complaintsFrom first (xs ++ ys) =
      complaintsFrom first xs ++ (complaintsFrom first ys).map (·.further xs.length) := by
  rw [← complaintsFrom_add]
  induction xs generalizing first with
  | nil => rfl
  | cons line rest ih =>
    have hrest := ih (first + 1)
    rw [Nat.add_right_comm, Nat.add_assoc first] at hrest
    by_cases h : Line.isMalformed line
    · simp only [List.cons_append, complaintsFrom, h, if_true, hrest, List.length_cons]
    · simp only [List.cons_append, complaintsFrom, h, Bool.false_eq_true, if_false, hrest,
        List.length_cons]

/-- The rules of two texts are those of the one and then those of the other. -/
theorem rules_append (t rest : Text) :
    rules (t ++ '\n' :: rest) = rules t ++ rules rest := by
  rw [rules, Text.lines, Text.splitOn_append, List.filterMap_append]
  rfl

/-- **The reading of two texts**, with a line feed between them. -/
theorem Reading.ofText_append (t u : Text) :
    ofText (t ++ '\n' :: u) = (ofText t).append (ofText u) := by
  have hlines : (t ++ '\n' :: u).lines = t.lines ++ u.lines := Text.splitOn_append '\n' t u
  have hreports : complaints (t ++ '\n' :: u) =
      complaints t ++ (complaints u).map (·.further t.lines.length) := by
    rw [complaints, hlines]
    exact complaintsFrom_append 1 t.lines u.lines
  rw [ofText, rules_append, hreports, hlines, List.length_append]
  rfl

namespace Reading

theorem append_assoc (x y z : Reading) : (x.append y).append z = x.append (y.append z) := by
  have hfurther : ∀ l : LogLine,
      l.further (x.lines + y.lines) = (l.further y.lines).further x.lines := by
    intro l
    cases l with
    | malformedLine number line =>
      show LogLine.malformedLine _ line = LogLine.malformedLine _ line
      rw [Nat.add_assoc, Nat.add_comm y.lines]
    | _ => rfl
  simp [append, hfurther, Nat.add_assoc, Function.comp_def]

theorem nil_append (x : Reading) : append ⟨[], [], 0⟩ x = x := by
  have hfurther : ∀ l : LogLine, l.further 0 = l := by
    intro l
    cases l <;> rfl
  simp [append, hfurther]

theorem concat_singleton (x : Reading) : concat [x] = x := by
  show x.append ⟨[], [], 0⟩ = x
  simp [append]

theorem concat_append (xs ys : List Reading) :
    concat (xs ++ ys) = (concat xs).append (concat ys) := by
  induction xs with
  | nil => exact (nil_append _).symm
  | cons x rest ih =>
    show x.append (concat (rest ++ ys)) = (x.append (concat rest)).append (concat ys)
    rw [ih, append_assoc]

end Reading

end Document

/-! ## Contents -/

namespace Datum

/-- Contents with a line feed between two others. All of them are text, or all are bytes. -/
inductive Joins : Datum → Datum → Datum → Prop
  | text (a b : Text) : Joins (.text a) (.text b) (.text (a ++ '\n' :: b))
  | bytes (a b : Bytes) : Joins (.bytes a) (.bytes b) (.bytes (a ++ 10 :: b))

/-- Contents with line feeds between some others. -/
inductive JoinsAll : List Datum → Datum → Prop
  | single (d : Datum) : JoinsAll [d] d
  | cons {d rest whole : Datum} {ds : List Datum} (hjoin : Joins d rest whole)
      (hrest : JoinsAll ds rest) : JoinsAll (d :: ds) whole

section Joins

variable {a b c : Datum}

theorem Joins.isContents (h : Joins a b c) : a.IsContents ∧ b.IsContents ∧ c.IsContents := by
  cases h with
  | text a b => exact ⟨.text a, .text b, .text _⟩
  | bytes a b => exact ⟨.bytes a, .bytes b, .bytes _⟩

/-- **What contents spell that are put together.** -/
theorem Joins.spells_iff (h : Joins a b c) {t : Text} :
    c.Spells t ↔ ∃ u v, a.Spells u ∧ b.Spells v ∧ t = u ++ '\n' :: v := by
  cases h with
  | text a b => simp [spells_text_iff]
  | bytes a b =>
    simp only [spells_bytes_iff]
    constructor
    · intro h
      obtain ⟨u, v, rfl, rfl, rfl⟩ := Utf8.exists_of_encode_eq h.symm
      exact ⟨u, v, rfl, rfl, rfl⟩
    · rintro ⟨u, v, rfl, rfl, rfl⟩
      exact (Utf8.encode_append u ('\n' :: v)).symm

end Joins

end Datum

namespace Document

section Reading

variable {a b c d : Datum} {w x : Reading}

/-- What is read from contents is the reading of the text that they spell. -/
theorem read_eq_ok_iff : read d = .ok x ↔ ∃ t, d.Spells t ∧ Reading.ofText t = x := by
  rw [read]
  constructor
  · intro h
    cases hdecode : decode d with
    | ok t =>
      rw [hdecode] at h
      exact ⟨t, decode_eq_ok_iff.mp hdecode, Except.ok.inj h⟩
    | error e =>
      rw [hdecode] at h
      cases h
  · rintro ⟨t, ht, rfl⟩
    rw [decode_eq_ok_iff.mpr ht]
    rfl

theorem read_of_isContents (hd : d.IsContents) :
    (∃ x, read d = .ok x) ∨ ∃ cause, read d = .error (.parse cause) := by
  rw [read]
  rcases hd.decode with ⟨t, hdecode⟩ | ⟨cause, hdecode⟩
  · rw [hdecode]
    exact .inl ⟨_, rfl⟩
  · rw [hdecode]
    exact .inr ⟨_, rfl⟩

theorem read_eq_error_iff (hd : d.IsContents) :
    (∃ cause, read d = .error (.parse cause)) ↔ ¬ ∃ x, read d = .ok x := by
  constructor
  · rintro ⟨cause, h⟩ ⟨x, hx⟩
    rw [h] at hx
    cases hx
  · intro h
    exact (read_of_isContents hd).resolve_left h

/-- **Contents that are put together are read one after the other.** -/
theorem read_joins_iff (h : a.Joins b c) :
    read c = .ok w ↔ ∃ x y, read a = .ok x ∧ read b = .ok y ∧ x.append y = w := by
  simp only [read_eq_ok_iff, h.spells_iff]
  constructor
  · rintro ⟨_, ⟨u, v, hu, hv, rfl⟩, rfl⟩
    exact ⟨_, _, ⟨u, hu, rfl⟩, ⟨v, hv, rfl⟩, (Reading.ofText_append u v).symm⟩
  · rintro ⟨_, _, ⟨u, hu, rfl⟩, ⟨v, hv, rfl⟩, rfl⟩
    exact ⟨_, ⟨u, v, hu, hv, rfl⟩, Reading.ofText_append u v⟩

theorem read_joinsAll_iff {ds : List Datum} (h : Datum.JoinsAll ds c) :
    read c = .ok w ↔ ∃ xs : List Reading, ds.map read = xs.map .ok ∧ Reading.concat xs = w := by
  induction h generalizing w with
  | single d =>
    constructor
    · intro hd
      exact ⟨[w], by simp [hd], w.concat_singleton⟩
    · rintro ⟨xs, hxs, rfl⟩
      obtain ⟨x, rfl⟩ : ∃ x, xs = [x] := by
        have hlen := congrArg List.length hxs
        rw [List.length_map, List.length_map] at hlen
        exact List.length_eq_one_iff.mp hlen.symm
      rw [Reading.concat_singleton]
      exact (List.cons.inj hxs).1
  | cons hjoin hrest ih =>
    rw [read_joins_iff hjoin]
    constructor
    · rintro ⟨x, y, hx, hy, rfl⟩
      obtain ⟨xs, hxs, rfl⟩ := ih.mp hy
      exact ⟨x :: xs, by rw [List.map_cons, List.map_cons, hx, hxs], rfl⟩
    · rintro ⟨xs, hxs, rfl⟩
      cases xs with
      | nil => cases hxs
      | cons x xs =>
        rw [List.map_cons, List.map_cons] at hxs
        obtain ⟨hx, hxs⟩ := List.cons.inj hxs
        exact ⟨x, _, hx, ih.mpr ⟨xs, hxs, rfl⟩, rfl⟩

/-- If all contents of a list are read, so are those before one of them, this one, and those after
it. -/
theorem exists_readings {before after : List Datum} {ws : List Reading}
    (h : (before ++ d :: after).map read = ws.map .ok) :
    ∃ xs z ys, ws = xs ++ z :: ys ∧ before.map read = xs.map .ok ∧ read d = .ok z ∧
      after.map read = ys.map .ok := by
  rw [List.map_append, List.map_cons] at h
  obtain ⟨xs, rest, rfl, hxs, hrest⟩ := List.map_eq_append_iff.mp h.symm
  obtain ⟨z, ys, rfl, hz, hys⟩ := List.map_eq_cons_iff.mp hrest
  exact ⟨xs, z, ys, rfl, hxs.symm, hz.symm, hys.symm⟩

theorem readings_unique {ds : List Datum} {xs ys : List Reading} (hxs : ds.map read = xs.map .ok)
    (hys : ds.map read = ys.map .ok) : xs = ys :=
  (List.map_inj_right fun _ _ => Except.ok.inj).mp (hxs.symm.trans hys)

theorem lines_of_oneLine {t : Text} (ht : d.Spells t) (hline : '\n' ∉ t) (hx : read d = .ok x) :
    x.lines = 1 := by
  obtain ⟨u, hu, rfl⟩ := read_eq_ok_iff.mp hx
  obtain rfl : t = u := Except.ok.inj
    ((decode_eq_ok_iff.mpr ht).symm.trans (decode_eq_ok_iff.mpr hu))
  show t.lines.length = 1
  rw [Text.lines, Text.splitOn_eq_singleton hline, List.length_singleton]

end Reading

/-! ## Lines among others -/

/-- **Reading goes along with putting contents together.** What a loader adds and reports
is the reading of the contents. Two contents with a line feed between them, both text or
both bytes, cannot be decoded exactly if one of them cannot. Otherwise what is read is
what is read from the first and then what is read from the second, whose lines stand
further down by the number of lines of the first. So what is read from the contents
around some line stays as it is where the line is replaced by another or left out, as
long as all can be decoded. -/
theorem reading_of_joined :
    (∀ {σ : Type} (d : Datum), (Loading.addContents d : Load σ Nat) = do
      let x ← Loading.attempt (read d)
      Loading.report x.reports
      Loading.addRules x.rules
      return x.rules.length) ∧
    (∀ {a b c : Datum}, a.Joins b c →
      ((∃ cause, read c = .error (.parse cause)) ↔
        (∃ cause, read a = .error (.parse cause)) ∨ ∃ cause, read b = .error (.parse cause)) ∧
      ((∀ cause, read c ≠ .error (.parse cause)) →
        ∃ x y, read a = .ok x ∧ read b = .ok y ∧ read c = .ok (x.append y))) ∧
    (∀ {before after : List Datum} {line whole : Datum} {w : Reading},
      Datum.JoinsAll (before ++ line :: after) whole → read whole = .ok w →
      ∃ xs z ys, before.map read = xs.map .ok ∧ read line = .ok z ∧ after.map read = ys.map .ok ∧
        w = (Reading.concat xs).append (z.append (Reading.concat ys)) ∧
        (∀ {line' whole' : Datum} {w' : Reading},
          Datum.JoinsAll (before ++ line' :: after) whole' → read whole' = .ok w' →
          ∃ z', read line' = .ok z' ∧
            w' = (Reading.concat xs).append (z'.append (Reading.concat ys))) ∧
        ∀ {whole' : Datum}, Datum.JoinsAll (before ++ after) whole' →
          read whole' = .ok ((Reading.concat xs).append (Reading.concat ys))) ∧
    ∀ {line : Datum} {t : Text} {z : Reading}, line.Spells t → '\n' ∉ t → read line = .ok z →
      z.lines = 1 := by
  refine ⟨addContents_eq_read, fun {a b c} h => ?_, fun {before after line whole w} h hw => ?_,
    lines_of_oneLine⟩
  · obtain ⟨ha, hb, hc⟩ := h.isContents
    constructor
    · rw [read_eq_error_iff ha, read_eq_error_iff hb, read_eq_error_iff hc,
        ← Classical.not_and_iff_not_or_not]
      refine not_congr ?_
      simp only [read_joins_iff h]
      constructor
      · rintro ⟨_, x, y, hx, hy, rfl⟩
        exact ⟨⟨x, hx⟩, ⟨y, hy⟩⟩
      · rintro ⟨⟨x, hx⟩, ⟨y, hy⟩⟩
        exact ⟨_, x, y, hx, hy, rfl⟩
    · intro hread
      have hok := (read_of_isContents hc).resolve_right fun ⟨cause, hcause⟩ => hread cause hcause
      obtain ⟨w, hw⟩ := hok
      obtain ⟨x, y, hx, hy, rfl⟩ := (read_joins_iff h).mp hw
      exact ⟨x, y, hx, hy, hw⟩
  · obtain ⟨ws, hws, rfl⟩ := (read_joinsAll_iff h).mp hw
    obtain ⟨xs, z, ys, rfl, hxs, hz, hys⟩ := exists_readings hws
    refine ⟨xs, z, ys, hxs, hz, hys, Reading.concat_append xs (z :: ys), ?_, ?_⟩
    · intro line' whole' w' h' hw'
      obtain ⟨ws', hws', rfl⟩ := (read_joinsAll_iff h').mp hw'
      obtain ⟨xs', z', ys', rfl, hxs', hz', hys'⟩ := exists_readings hws'
      rw [readings_unique hxs hxs', readings_unique hys hys']
      exact ⟨z', hz', Reading.concat_append xs' (z' :: ys')⟩
    · intro whole' h'
      have hall : (before ++ after).map read = (xs ++ ys).map .ok := by
        rw [List.map_append, List.map_append, hxs, hys]
      exact (read_joinsAll_iff h').mpr ⟨xs ++ ys, hall, Reading.concat_append xs ys⟩

/-- A line feed between the two bytes of a character leaves bytes that cannot be decoded. -/
theorem reading_of_joined_seam :
    read (.bytes [0xC3, 0xA9]) = .ok ⟨[], [.malformedLine 1 ['é']], 1⟩ ∧
      ∃ cause, read (.bytes [0xC3, 10, 0xA9]) = .error (.parse cause) := by
  have hfirst : read (.bytes [0xC3]) =
      .error (.parse (.undecodableMailmap ⟨0, 0xC3, [], .truncated⟩)) := by cbv
  refine ⟨by cbv, ?_⟩
  exact (reading_of_joined.2.1 (.bytes [0xC3] [0xA9])).1.mpr (.inl ⟨_, hfirst⟩)

end Document

end Attribution
