/-!
# Cutting text at a separator

`splitOnce` cuts at the first separator and `split` at every one. `split` has one piece more than
there are separators, so it is never empty, and no piece holds the separator.
-/

namespace MetricGateway.Text

/-- The parts before and after the first `sep`, if there is one. -/
def splitOnce (sep : Char) : List Char → Option (List Char × List Char)
  | [] => none
  | c :: rest =>
    if c = sep then some ([], rest)
    else (splitOnce sep rest).map fun (before, behind) => (c :: before, behind)

/-- The parts before and after the last `sep`, if there is one. -/
def splitLast (sep : Char) (s : List Char) : Option (List Char × List Char) :=
  (splitOnce sep s.reverse).map fun (behind, before) => (before.reverse, behind.reverse)

/-- The pieces between the separators. -/
def split (sep : Char) : List Char → List (List Char)
  | [] => [[]]
  | c :: rest =>
    if c = sep then [] :: split sep rest
    else match split sep rest with
      | [] => [[c]]
      | piece :: pieces => (c :: piece) :: pieces

/-- Joins pieces with a separator between them. -/
def join (sep : List Char) (pieces : List (List Char)) : List Char := sep.intercalate pieces

theorem split_ne_nil (sep : Char) (s : List Char) : split sep s ≠ [] := by
  cases s with
  | nil => simp [split]
  | cons c rest =>
    rw [split]
    split
    · simp
    · split <;> simp

theorem split_of_not_mem {sep : Char} {s : List Char} (h : sep ∉ s) : split sep s = [s] := by
  induction s with
  | nil => rfl
  | cons c rest ih =>
    obtain ⟨hc, hrest⟩ := List.ne_and_not_mem_of_not_mem_cons h
    rw [split, if_neg (Ne.symm hc), ih hrest]

/-- A separator ends a piece. -/
theorem split_append_cons (sep : Char) (s t : List Char) :
    split sep (s ++ sep :: t) = split sep s ++ split sep t := by
  induction s with
  | nil => simp [split]
  | cons c rest ih =>
    obtain ⟨piece, pieces, hrest⟩ := List.exists_cons_of_ne_nil (split_ne_nil sep rest)
    rw [List.cons_append, split, split, ih, hrest]
    split <;> rfl

/-- Fields with a separator before each of them are cut one by one. -/
theorem split_append_flatMap (sep : Char) (s : List Char) (fields : List (List Char)) :
    split sep (s ++ fields.flatMap (sep :: ·)) = (s :: fields).flatMap (split sep) := by
  induction fields generalizing s with
  | nil => simp
  | cons field rest ih =>
    rw [List.flatMap_cons, List.cons_append, split_append_cons, ih]
    rfl

/-- Joined again, the pieces of a text are the text. -/
theorem join_split (sep : Char) (s : List Char) : join [sep] (split sep s) = s := by
  induction s with
  | nil => rfl
  | cons c rest ih =>
    obtain ⟨piece, pieces, hrest⟩ := List.exists_cons_of_ne_nil (split_ne_nil sep rest)
    rw [hrest] at ih
    by_cases h : c = sep
    · rw [split, if_pos h, hrest, h]
      exact congrArg (sep :: ·) ih
    · rw [split, if_neg h, hrest]
      cases pieces <;> exact congrArg (c :: ·) ih

/-- Different texts are cut into different pieces. -/
theorem split_inj {sep : Char} {s t : List Char} : split sep s = split sep t ↔ s = t := by
  refine ⟨fun h => ?_, fun h => by rw [h]⟩
  rw [← join_split sep s, h, join_split]

/-- No piece has a separator. -/
theorem not_mem_of_mem_split {sep : Char} {s piece : List Char} (h : piece ∈ split sep s) :
    sep ∉ piece := by
  induction s generalizing piece with
  | nil => rw [List.mem_singleton.mp h]; exact List.not_mem_nil
  | cons c rest ih =>
    obtain ⟨first, pieces, hrest⟩ := List.exists_cons_of_ne_nil (split_ne_nil sep rest)
    rw [hrest] at ih
    rw [split, hrest] at h
    split at h
    case isTrue =>
      rcases List.mem_cons.mp h with rfl | hmem
      · exact List.not_mem_nil
      · exact ih hmem
    case isFalse hc =>
      rcases List.mem_cons.mp h with rfl | hmem
      · exact List.not_mem_cons_of_ne_of_not_mem (Ne.symm hc) (ih (List.mem_cons_self ..))
      · exact ih (List.mem_cons_of_mem _ hmem)

/-- Pieces are those of a text if and only if none has a separator and with one in front of each but
the first they make up the text. -/
theorem split_eq_cons_iff {sep : Char} {s first : List Char} {rest : List (List Char)} :
    split sep s = first :: rest ↔
      s = first ++ rest.flatMap (sep :: ·) ∧ ∀ piece ∈ first :: rest, sep ∉ piece := by
  constructor
  · intro h
    refine ⟨?_, fun piece hmem => not_mem_of_mem_split (h ▸ hmem)⟩
    rw [← join_split sep s, h]
    clear h
    induction rest generalizing first with
    | nil => simp [join]
    | cons piece rest ih => exact congrArg (first ++ sep :: ·) ih
  · rintro ⟨rfl, hfree⟩
    rw [split_append_flatMap]
    generalize first :: rest = pieces at hfree
    induction pieces with
    | nil => rfl
    | cons piece pieces ih =>
      rw [List.flatMap_cons, split_of_not_mem (hfree piece (List.mem_cons_self ..)),
        ih fun p hp => hfree p (List.mem_cons_of_mem _ hp), List.singleton_append]

/-- A text has a first separator exactly where it reads as `before ++ sep :: behind` with no
separator in `before`. -/
theorem splitOnce_eq_some_iff {sep : Char} {s before behind : List Char} :
    splitOnce sep s = some (before, behind) ↔ s = before ++ sep :: behind ∧ sep ∉ before := by
  induction s generalizing before with
  | nil => simp [splitOnce]
  | cons c rest ih =>
    by_cases h : c = sep
    · subst h
      cases before with
      | nil => simp [splitOnce, eq_comm]
      | cons b bs =>
        simp only [splitOnce, if_true, Option.some.injEq, Prod.mk.injEq, List.cons_append,
          List.cons.injEq, List.mem_cons, not_or]
        constructor
        · rintro ⟨h, -⟩; exact absurd h (by simp)
        · rintro ⟨⟨hc, -⟩, hn, -⟩; exact absurd hc hn
    · cases before with
      | nil => simp [splitOnce, h]
      | cons b bs =>
        simp only [splitOnce, h, if_false, Option.map_eq_some_iff, Prod.exists, Prod.mk.injEq,
          List.cons.injEq, List.cons_append, List.mem_cons, not_or]
        constructor
        · rintro ⟨x, y, hx, ⟨rfl, rfl⟩, rfl⟩
          obtain ⟨h1, h2⟩ := ih.1 hx
          exact ⟨⟨rfl, h1⟩, fun e => h e.symm, h2⟩
        · rintro ⟨⟨rfl, h1⟩, -, h2⟩
          exact ⟨bs, behind, ih.2 ⟨h1, h2⟩, ⟨rfl, rfl⟩, rfl⟩

theorem splitOnce_eq_none_iff {sep : Char} {s : List Char} :
    splitOnce sep s = none ↔ sep ∉ s := by
  induction s with
  | nil => simp [splitOnce]
  | cons c rest ih =>
    by_cases h : c = sep
    · simp [splitOnce, h]
    · simp [splitOnce, h, ih, Ne.symm h]

end MetricGateway.Text
