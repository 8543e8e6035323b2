import Mathlib.Data.List.Basic

/-!
# Logs

Where several threads are at work, what they have done is written to a log, and
facts about the order of events are facts about places in it. A log only grows:
what stands at a place stays there.
-/

namespace MetricGateway

/-- What stands in a list that has got one more element. -/
theorem getElem?_concat_eq_some_iff {α : Type} {l : List α} {a b : α} {n : Nat} :
    (l ++ [a])[n]? = some b ↔ l[n]? = some b ∨ n = l.length ∧ a = b := by
  constructor
  · intro h
    rcases Nat.lt_or_ge n l.length with hlt | hge
    · exact Or.inl ((List.getElem?_append_left hlt).symm.trans h)
    · have hlen := (List.getElem?_eq_some_iff.mp h).1
      rw [List.length_append, List.length_singleton] at hlen
      obtain rfl : n = l.length := by omega
      rw [List.getElem?_concat_length, Option.some.injEq] at h
      exact Or.inr ⟨rfl, h⟩
  · rintro (h | ⟨rfl, rfl⟩)
    · exact (List.getElem?_append_left (List.getElem?_eq_some_iff.mp h).1).trans h
    · exact List.getElem?_concat_length

section At

variable {ε : Type} {log : List ε} {place : Nat} {e : ε}

/-- An event stands at a place of the log. -/
def At (log : List ε) (place : Nat) (e : ε) : Prop := log[place]? = some e

theorem At.lt (h : At log place e) : place < log.length := (List.getElem?_eq_some_iff.mp h).1

/-- What stands in a log that has got one more event. -/
theorem at_concat_iff {event : ε} :
    At (log ++ [event]) place e ↔ At log place e ∨ place = log.length ∧ event = e :=
  getElem?_concat_eq_some_iff

theorem At.concat (h : At log place e) (event : ε) : At (log ++ [event]) place e :=
  at_concat_iff.mpr (Or.inl h)

/-- The last event. -/
theorem at_concat_length (event : ε) : At (log ++ [event]) log.length event :=
  at_concat_iff.mpr (Or.inr ⟨rfl, rfl⟩)

end At

end MetricGateway
