import Mathlib.Data.Nat.Find
import MetricGateway.Proofs.Routing.Partitioner
import MetricGateway.Routing.Broker

/-!
# Asking for the number of partitions

A topic that has just been created may not have partitions yet, so a broker that
says so is asked again. Anything else it says is decisive: an error, which is passed
on as it is, or a positive number. So what comes of the questions is what the first decisive
answer says, the broker is asked as often as it takes to get there, and nothing it
would have said later matters. If no answer is decisive, all questions are asked.

The induction is on the questions that are left. What carries it is that none of the
answers so far was decisive.
-/

namespace MetricGateway.Routing

variable {topic : String} {attempts : Nat} {answer other : Nat → Except ClientError Int}

/-! ## Decisive answers -/

/-- An answer that ends the questions: an error, or a positive number. -/
def Decisive : Except ClientError Int → Prop
  | .error _ => True
  | .ok count => 0 < count

instance : DecidablePred Decisive
  | .error _ => isTrue trivial
  | .ok count => inferInstanceAs (Decidable (0 < count))

/-- Among the first so many answers, counted from zero on, this is the first decisive one. -/
structure FirstDecisive (answer : Nat → Except ClientError Int) (attempts j : Nat) : Prop where
  lt : j < attempts
  decisive : Decisive (answer j)
  earlier : ∀ i < j, ¬ Decisive (answer i)

/-- Answers are decisive or not, so there is a first one or none. -/
theorem exists_firstDecisive_or (answer : Nat → Except ClientError Int) (attempts : Nat) :
    (∃ j, FirstDecisive answer attempts j) ∨ ∀ i < attempts, ¬ Decisive (answer i) := by
  by_cases h : ∃ j, j < attempts ∧ Decisive (answer j)
  · obtain ⟨hlt, hdecisive⟩ := Nat.find_spec h
    refine Or.inl ⟨Nat.find h, hlt, hdecisive, fun i hi hearly => ?_⟩
    exact Nat.find_min h hi ⟨Nat.lt_trans hi hlt, hearly⟩
  · exact Or.inr fun i hi hdecisive => h ⟨i, hi, hdecisive⟩

/-- Whether an answer is the first decisive one depends on the answers up to it only. -/
theorem FirstDecisive.congr {j : Nat} (h : FirstDecisive answer attempts j)
    (hsame : ∀ i < j + 1, other i = answer i) : FirstDecisive other attempts j where
  lt := h.lt
  decisive := by
    rw [hsame j (Nat.lt_succ_self j)]
    exact h.decisive
  earlier i hi := by
    rw [hsame i (Nat.lt_succ_of_lt hi)]
    exact h.earlier i hi

/-! ## One question -/

theorem askPartitionCount_of_decisive {asked left : Nat} (h : Decisive (answer asked)) :
    askPartitionCount topic attempts answer asked (left + 1) =
      (answer asked, asked + 1) := by
  rw [askPartitionCount]
  cases hanswer : answer asked with
  | error e => rfl
  | ok count =>
      rw [hanswer] at h
      exact if_pos h

theorem askPartitionCount_of_not_decisive {asked left : Nat} (h : ¬ Decisive (answer asked)) :
    askPartitionCount topic attempts answer asked (left + 1) =
      askPartitionCount topic attempts answer (asked + 1) left := by
  rw [askPartitionCount]
  cases hanswer : answer asked with
  | error e =>
      rw [hanswer] at h
      exact absurd trivial h
  | ok count =>
      rw [hanswer] at h
      exact if_neg h

/-! ## All questions -/

/-- **Questions end with the first decisive answer**, if it is among those that are left. -/
theorem askPartitionCount_of_first {asked left j : Nat} (hasked : asked ≤ j)
    (hleft : j < asked + left) (hdecisive : Decisive (answer j))
    (hearlier : ∀ i, asked ≤ i → i < j → ¬ Decisive (answer i)) :
    askPartitionCount topic attempts answer asked left = (answer j, j + 1) := by
  induction left generalizing asked with
  | zero => omega
  | succ left ih =>
      rcases Nat.eq_or_lt_of_le hasked with rfl | hlt
      · exact askPartitionCount_of_decisive hdecisive
      · rw [askPartitionCount_of_not_decisive (hearlier asked (Nat.le_refl _) hlt)]
        exact ih hlt (by omega) fun i hi => hearlier i (by omega)

/-- If none of the answers that are left is decisive, all questions are asked. -/
theorem askPartitionCount_of_none {asked left : Nat}
    (h : ∀ i, asked ≤ i → i < asked + left → ¬ Decisive (answer i)) :
    askPartitionCount topic attempts answer asked left =
      (.error (.noPartitions topic attempts), asked + left) := by
  induction left generalizing asked with
  | zero => rfl
  | succ left ih =>
      rw [askPartitionCount_of_not_decisive (h asked (Nat.le_refl _) (by omega)),
        ih fun i hi hlt => h i (by omega) (by omega), Nat.add_assoc, Nat.add_comm 1]

theorem fetchPartitionCount_of_first {j : Nat} (h : FirstDecisive answer attempts j) :
    fetchPartitionCount topic attempts answer = (answer j, j + 1) :=
  askPartitionCount_of_first (Nat.zero_le _) (by have := h.lt; omega) h.decisive
    fun i _ => h.earlier i

theorem fetchPartitionCount_of_none (h : ∀ i < attempts, ¬ Decisive (answer i)) :
    fetchPartitionCount topic attempts answer =
      (.error (.noPartitions topic attempts), attempts) := by
  have hnone : askPartitionCount topic attempts answer 0 attempts =
      (.error (.noPartitions topic attempts), 0 + attempts) :=
    askPartitionCount_of_none fun i _ hi => h i (Nat.zero_add attempts ▸ hi)
  rwa [Nat.zero_add] at hnone

/-- Only positive numbers are returned. -/
theorem pos_of_fetchPartitionCount {count : Int}
    (h : (fetchPartitionCount topic attempts answer).1 = .ok count) : 0 < count := by
  rcases exists_firstDecisive_or answer attempts with ⟨j, hj⟩ | hnone
  · rw [fetchPartitionCount_of_first hj] at h
    have hanswer : answer j = .ok count := h
    have hdecisive := hj.decisive
    rw [hanswer] at hdecisive
    exact hdecisive
  · rw [fetchPartitionCount_of_none hnone] at h
    cases h

/-- What the broker would have said to further questions does not matter. -/
theorem fetchPartitionCount_congr
    (h : ∀ i < (fetchPartitionCount topic attempts answer).2, other i = answer i) :
    fetchPartitionCount topic attempts other = fetchPartitionCount topic attempts answer := by
  rcases exists_firstDecisive_or answer attempts with ⟨j, hj⟩ | hnone
  · rw [fetchPartitionCount_of_first hj] at h ⊢
    rw [fetchPartitionCount_of_first (hj.congr h), h j (Nat.lt_succ_self j)]
  · rw [fetchPartitionCount_of_none hnone] at h ⊢
    refine fetchPartitionCount_of_none fun i hi => ?_
    rw [h i hi]
    exact hnone i hi

/-- **The first decisive answer is what comes of the questions.**

Take any topic, any number of attempts, also none, and any broker, which may answer with any error
and any number. If one of so many answers is an error or a positive number, the first such answer is
returned as it is, and it is the last that is asked for.
Otherwise all questions are asked, and what is returned is that the topic has no partitions after so
many attempts. One of the two is the case, and whatever the broker would have answered to further
questions does not matter. A number that is returned is always one that a partitioner can be made
for, whatever the scheme. -/
theorem first_decisive_answer_returned (topic : String) (attempts : Nat)
    (answer : Nat → Except ClientError Int) :
    ((∃ j, FirstDecisive answer attempts j) ∨ ∀ i < attempts, ¬ Decisive (answer i))
      ∧ (∀ j, FirstDecisive answer attempts j →
        fetchPartitionCount topic attempts answer = (answer j, j + 1))
      ∧ ((∀ i < attempts, ¬ Decisive (answer i)) →
        fetchPartitionCount topic attempts answer =
          (.error (.noPartitions topic attempts), attempts))
      ∧ (∀ other : Nat → Except ClientError Int,
        (∀ i < (fetchPartitionCount topic attempts answer).2, other i = answer i) →
        fetchPartitionCount topic attempts other = fetchPartitionCount topic attempts answer)
      ∧ ∀ (scheme : PartitionScheme) (count : Int),
        (fetchPartitionCount topic attempts answer).1 = .ok count →
        ∃ p, Partitioner.of scheme count = .ok p ∧ p.scheme = scheme ∧ (p.count : Int) = count := by
  refine ⟨exists_firstDecisive_or answer attempts, fun j => fetchPartitionCount_of_first,
    fetchPartitionCount_of_none, fun other => fetchPartitionCount_congr, fun scheme count h => ?_⟩
  have hpos : 1 ≤ count := pos_of_fetchPartitionCount h
  obtain ⟨p, hp⟩ : ∃ p, Partitioner.of scheme count = .ok p := ⟨_, dif_pos hpos⟩
  exact ⟨p, hp, (Partitioner.of_eq_ok_iff.mp hp).2⟩

/-- A broker that first names no partitions, then fewer than none, then twelve, and then fails: two
attempts are too few and a fourth is not made. If it fails first, its error is passed on, whatever it
is about. -/
theorem first_decisive_answer_returned_of_third :
    let answer : Nat → Except ClientError Int :=
      fun n => if n = 0 then .ok 0 else if n = 1 then .ok (-3) else if n = 2 then .ok 12
        else .error (.invalidConfig "no broker")
    FirstDecisive answer 4 2 ∧ fetchPartitionCount "mdm" 4 answer = (.ok 12, 3)
      ∧ (∀ i < 2, ¬ Decisive (answer i))
      ∧ fetchPartitionCount "mdm" 2 answer = (.error (.noPartitions "mdm" 2), 2)
      ∧ (∃ p, Partitioner.of .bySeries 12 = .ok p ∧ p.count = 12)
      ∧ fetchPartitionCount "mdm" 1 (fun n => answer (n + 3)) =
        (.error (.invalidConfig "no broker"), 1) := by
  intro answer
  have hthird : FirstDecisive answer 4 2 := ⟨by decide, by decide, by decide⟩
  have hnone : ∀ i < 2, ¬ Decisive (answer i) := by decide
  have hfails : FirstDecisive (fun n => answer (n + 3)) 1 0 := ⟨by decide, by decide, by decide⟩
  obtain ⟨-, hfirst, -, -, hcount⟩ := first_decisive_answer_returned "mdm" 4 answer
  have htwelve : fetchPartitionCount "mdm" 4 answer = (.ok 12, 3) := hfirst 2 hthird
  obtain ⟨p, hp, -, hpartitions⟩ := hcount .bySeries 12 (by rw [htwelve])
  exact ⟨hthird, htwelve, hnone, (first_decisive_answer_returned "mdm" 2 answer).2.2.1 hnone,
    ⟨p, hp, by exact_mod_cast hpartitions⟩,
    (first_decisive_answer_returned "mdm" 1 fun n => answer (n + 3)).2.1 0 hfails⟩

end MetricGateway.Routing
