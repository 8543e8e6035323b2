import Mathlib.Data.List.TakeWhile
import MetricGateway.Text.Blank

/-!
# White space around and between

Trimming takes white space away at both ends, and the fields of a text are what
stands between white space. Both are said here by putting a text together: from
what is left and what has been taken away, and from words with white space around
and between them. There is one way only to take a text apart like this, so this is
all there is to know about either.
-/

namespace MetricGateway.Text

/-- White space and nothing else. -/
def Blank (s : List Char) : Prop := ∀ c ∈ s, isBlank c = true

/-- Characters that are no white space, at least one of them. -/
structure IsWord (s : List Char) : Prop where
  ne_nil : s ≠ []
  not_blank : ∀ c ∈ s, isBlank c = false

/-- Whether something holds of all characters of a text is decided one by one. -/
theorem forall_mem_of_all {p : Char → Prop} [DecidablePred p] {s : List Char}
    (h : (s.all fun c => decide (p c)) = true) : ∀ c ∈ s, p c :=
  fun c hc => of_decide_eq_true (List.all_eq_true.mp h c hc)

instance (s : List Char) : Decidable (IsWord s) :=
  decidable_of_iff (s ≠ [] ∧ (s.all fun c => decide (isBlank c = false)) = true)
    ⟨fun ⟨hne, hall⟩ => ⟨hne, forall_mem_of_all hall⟩,
      fun h => ⟨h.ne_nil, List.all_eq_true.mpr fun c hc => decide_eq_true (h.not_blank c hc)⟩⟩

theorem Blank.nil : Blank [] := nofun

theorem Blank.append {s t : List Char} (hs : Blank s) (ht : Blank t) : Blank (s ++ t) := by
  intro c hc
  rcases List.mem_append.mp hc with hc | hc
  · exact hs c hc
  · exact ht c hc

/-- Only white space is nothing but white space. -/
theorem Blank.not_mem {s : List Char} {c : Char} (hs : Blank s) (hc : isBlank c = false) : c ∉ s :=
  fun hmem => absurd (hs c hmem) (by simp [hc])

theorem isBlankText_iff {s : List Char} : isBlankText s = true ↔ Blank s := List.all_eq_true

/-! ## Trimming -/

theorem dropWhile_append_of_blank {pad s : List Char} (hpad : Blank pad)
    (hs : ∀ c, s.head? = some c → isBlank c = false) : (pad ++ s).dropWhile isBlank = s := by
  rw [List.dropWhile_append_of_pos hpad]
  cases s with
  | nil => rfl
  | cons c rest => rw [List.dropWhile_cons_of_neg (by simp [hs c rfl])]

/-- White space around a text that has none at its ends is what trimming takes away. -/
theorem trim_append {before s behind : List Char} (hbefore : Blank before) (hbehind : Blank behind)
    (hfirst : ∀ c, s.head? = some c → isBlank c = false)
    (hlast : ∀ c, s.getLast? = some c → isBlank c = false) : trim (before ++ s ++ behind) = s := by
  cases s with
  | nil =>
      have hall : Blank (before ++ [] ++ behind) := by
        rw [List.append_nil]; exact hbefore.append hbehind
      have hnone := dropWhile_append_of_blank (s := []) hall nofun
      rw [List.append_nil] at hnone
      rw [trim, hnone]
      rfl
  | cons c rest =>
      have hhead : ∀ d, (c :: rest ++ behind).head? = some d → isBlank d = false := hfirst
      have hreverse : Blank behind.reverse := fun d hd => hbehind d (List.mem_reverse.mp hd)
      have hend : ∀ d, (c :: rest).reverse.head? = some d → isBlank d = false := by
        intro d hd
        rw [List.head?_reverse] at hd
        exact hlast d hd
      rw [trim, List.append_assoc, dropWhile_append_of_blank hbefore hhead, List.reverse_append,
        dropWhile_append_of_blank hreverse hend, List.reverse_reverse]

/-- Trimming takes away white space only. -/
theorem exists_eq_append_trim (s : List Char) :
    ∃ before behind, Blank before ∧ Blank behind ∧ s = before ++ trim s ++ behind := by
  have hblank : ∀ t : List Char, Blank (t.takeWhile isBlank) :=
    fun t c hc => List.mem_takeWhile_imp hc
  refine ⟨s.takeWhile isBlank, ((s.dropWhile isBlank).reverse.takeWhile isBlank).reverse,
    hblank s, fun c hc => hblank _ c (List.mem_reverse.mp hc), ?_⟩
  rw [trim, List.append_assoc, ← List.reverse_append, List.takeWhile_append_dropWhile,
    List.reverse_reverse, List.takeWhile_append_dropWhile]

/-! ## Fields -/

/-- A text that is put together from words, with white space around and between them. -/
inductive Spaced : List Char → List (List Char) → Prop
  | blank {s : List Char} : Blank s → Spaced s []
  | word {pad w rest : List Char} {words : List (List Char)} : Blank pad → IsWord w →
      (∀ c, rest.head? = some c → isBlank c = true) → Spaced rest words →
      Spaced (pad ++ w ++ rest) (w :: words)

/-- White space behind a word ends it. -/
theorem Spaced.cons {pad w gap rest : List Char} {words : List (List Char)} (hpad : Blank pad)
    (hw : IsWord w) (hgap : Blank gap) (hne : gap ≠ []) (h : Spaced (gap ++ rest) words) :
    Spaced (pad ++ w ++ (gap ++ rest)) (w :: words) := by
  refine .word hpad hw (fun c hc => ?_) h
  obtain ⟨d, gap, rfl⟩ := List.exists_cons_of_ne_nil hne
  obtain rfl : d = c := Option.some.inj hc
  exact hgap d (List.mem_cons_self ..)

theorem fields_go_blank {pad : List Char} (hpad : Blank pad) (s : List Char) :
    fields.go [] (pad ++ s) = fields.go [] s := by
  induction pad with
  | nil => rfl
  | cons c pad ih =>
      rw [List.cons_append, fields.go, if_pos (hpad c (List.mem_cons_self ..)),
        List.isEmpty_nil, if_pos rfl, ih fun d hd => hpad d (List.mem_cons_of_mem _ hd)]

theorem fields_go_word {w : List Char} (hw : ∀ c ∈ w, isBlank c = false) (current s : List Char) :
    fields.go current (w ++ s) = fields.go (w.reverse ++ current) s := by
  induction w generalizing current with
  | nil => rfl
  | cons c w ih =>
      rw [List.cons_append, fields.go, if_neg (by simp [hw c (List.mem_cons_self ..)]),
        ih (fun d hd => hw d (List.mem_cons_of_mem _ hd)), List.reverse_cons, List.append_assoc]
      rfl

/-- The piece under way ends where white space or nothing follows. -/
theorem fields_go_end {current s : List Char} (hcurrent : current ≠ [])
    (hs : ∀ c, s.head? = some c → isBlank c = true) :
    fields.go current s = current.reverse :: fields.go [] s := by
  have hsome : current.isEmpty = false := by simpa using hcurrent
  cases s with
  | nil => rw [fields.go, hsome]; rfl
  | cons c rest =>
      rw [fields.go, if_pos (hs c rfl), hsome, fields.go, if_pos (hs c rfl)]
      rfl

/-- The words that a text is put together from are its fields. -/
theorem Spaced.fields_eq {s : List Char} {words : List (List Char)} (h : Spaced s words) :
    fields s = words := by
  induction h with
  | @blank s hblank =>
      rw [fields, ← List.append_nil s, fields_go_blank hblank]
      rfl
  | word hpad hw hrest _ ih =>
      rw [fields, List.append_assoc, fields_go_blank hpad, fields_go_word hw.not_blank,
        List.append_nil, fields_go_end (by simpa using hw.ne_nil) hrest, List.reverse_reverse]
      exact congrArg _ ih

/-- Every text can be put together like this. -/
theorem exists_spaced (s : List Char) : ∃ words, Spaced s words := by
  induction s with
  | nil => exact ⟨[], .blank nofun⟩
  | cons c s ih =>
      obtain ⟨words, hs⟩ := ih
      cases hc : isBlank c with
      | true =>
          -- the white space in front gets longer
          refine ⟨words, ?_⟩
          cases hs with
          | blank hblank => exact .blank (List.forall_mem_cons.mpr ⟨hc, hblank⟩)
          | @word pad w rest words hpad hw hrest hwords =>
              have hlonger : Blank (c :: pad) := List.forall_mem_cons.mpr ⟨hc, hpad⟩
              exact @Spaced.word (c :: pad) w rest words hlonger hw hrest hwords
      | false =>
          have hone : IsWord [c] := ⟨nofun, List.forall_mem_singleton.mpr hc⟩
          by_cases hnext : ∀ d, s.head? = some d → isBlank d = true
          · -- a word of its own
            exact ⟨_, @Spaced.word [] [c] s words nofun hone hnext hs⟩
          · -- the first word gets longer
            cases hs with
            | blank hblank =>
                exact absurd (fun d hd => hblank d (List.mem_of_mem_head? hd)) hnext
            | @word pad w rest words hpad hw hrest hwords =>
                cases pad with
                | nil =>
                    have hlonger : IsWord (c :: w) :=
                      ⟨nofun, List.forall_mem_cons.mpr ⟨hc, hw.not_blank⟩⟩
                    exact ⟨_, @Spaced.word [] (c :: w) rest words nofun hlonger hrest hwords⟩
                | cons b pad =>
                    refine absurd (fun d hd => ?_) hnext
                    cases hd
                    exact hpad b (List.mem_cons_self ..)

/-- **The fields of a text are the words that it is put together from.** -/
theorem fields_eq_iff {s : List Char} {words : List (List Char)} :
    fields s = words ↔ Spaced s words := by
  refine ⟨fun h => ?_, Spaced.fields_eq⟩
  obtain ⟨words', hwords⟩ := exists_spaced s
  rwa [← h, hwords.fields_eq]

end MetricGateway.Text
