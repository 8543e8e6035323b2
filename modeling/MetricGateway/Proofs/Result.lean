/-!
# Results that may be errors

Checks are made one after the other and lists are read member by member, and the
first error ends it. So there is a result if and only if every step has one.
-/

namespace MetricGateway.Result

variable {ε δ α β : Type}

theorem error_ne_ok {e : ε} {a : α} : Except.error e ≠ .ok a := nofun

theorem bind_eq_ok_iff {x : Except ε α} {f : α → Except ε β} {b : β} :
    x >>= f = .ok b ↔ ∃ a, x = .ok a ∧ f a = .ok b := by
  cases x with
  | error e => exact iff_of_false nofun fun ⟨a, h, _⟩ => nomatch h
  | ok a => exact ⟨fun h => ⟨a, rfl, h⟩, fun ⟨_, ha, h⟩ => by cases ha; exact h⟩

theorem map_eq_ok_iff {f : α → β} {x : Except ε α} {b : β} :
    x.map f = .ok b ↔ ∃ a, x = .ok a ∧ f a = b := by
  cases x with
  | error e => exact iff_of_false nofun fun ⟨a, h, _⟩ => nomatch h
  | ok a => exact ⟨fun h => ⟨a, rfl, Except.ok.inj h⟩, fun ⟨_, ha, h⟩ => by cases ha; rw [← h]; rfl⟩

theorem mapError_eq_ok_iff {f : ε → δ} {x : Except ε α} {a : α} :
    x.mapError f = .ok a ↔ x = .ok a := by
  cases x with
  | error e => exact iff_of_false nofun nofun
  | ok a' => exact ⟨fun h => by cases h; rfl, fun h => by cases h; rfl⟩

/-- Where there is one error only, it is the result if there is no other. -/
theorem eq_error_iff {x : Except ε α} {e : ε} (h : (∃ a, x = .ok a) ∨ x = .error e) :
    x = .error e ↔ ¬ ∃ a, x = .ok a := by
  constructor
  · rintro rfl ⟨a, ha⟩
    cases ha
  · exact h.resolve_left

/-! ## Checks -/

theorem check_eq_ok_iff {x : Except ε α} {y : Except ε β} {b : β} :
    (x >>= fun _ => y) = .ok b ↔ (∃ a, x = .ok a) ∧ y = .ok b := by
  rw [bind_eq_ok_iff, exists_and_right]

theorem check_if_eq_ok_iff {c : Bool} {x : Except ε Unit} {y : Except ε β} {b : β} :
    (if c = true then x >>= fun _ => y else y) = .ok b ↔ (c = true → x = .ok ()) ∧ y = .ok b := by
  cases c with
  | false => exact ⟨fun h => ⟨nofun, h⟩, And.right⟩
  | true =>
      rw [if_pos rfl, check_eq_ok_iff]
      exact and_congr_left' ⟨fun ⟨_, h⟩ _ => h, fun h => ⟨(), h rfl⟩⟩

theorem throw_if_eq_ok_iff {c : Bool} {e : ε} :
    (if c = true then throw e else pure () : Except ε Unit) = .ok () ↔ c = false := by
  cases c with
  | false => exact iff_of_true rfl rfl
  | true => exact iff_of_false nofun nofun

/-! ## Lists -/

/-- A list is read if every member of it is. -/
theorem mapM_eq_ok_iff {f : α → Except ε β} {xs : List α} {ys : List β} :
    xs.mapM f = .ok ys ↔ xs.map f = ys.map .ok := by
  induction xs generalizing ys with
  | nil =>
      rw [List.mapM_nil, List.map_nil]
      constructor
      · rintro ⟨⟩; rfl
      · intro h; rw [List.map_eq_nil_iff.mp h.symm]; rfl
  | cons x rest ih =>
      rw [List.mapM_cons, List.map_cons, bind_eq_ok_iff]
      constructor
      · rintro ⟨y, hx, h⟩
        obtain ⟨others, hrest, ⟨⟩⟩ := bind_eq_ok_iff.mp h
        rw [hx, ih.mp hrest, List.map_cons]
      · intro h
        obtain ⟨y, others, rfl, hx, hrest⟩ := List.map_eq_cons_iff.mp h.symm
        exact ⟨y, hx.symm, bind_eq_ok_iff.mpr ⟨others, ih.mpr hrest.symm, rfl⟩⟩

theorem exists_mapM_eq_ok_iff {f : α → Except ε β} {xs : List α} :
    (∃ ys, xs.mapM f = .ok ys) ↔ ∀ x ∈ xs, ∃ y, f x = .ok y := by
  constructor
  · rintro ⟨ys, hys⟩ x hx
    have hmem : f x ∈ ys.map .ok := mapM_eq_ok_iff.mp hys ▸ List.mem_map_of_mem hx
    obtain ⟨y, -, hy⟩ := List.mem_map.mp hmem
    exact ⟨y, hy.symm⟩
  · intro h
    induction xs with
    | nil => exact ⟨[], rfl⟩
    | cons x rest ih =>
        obtain ⟨y, hy⟩ := h x (List.mem_cons_self ..)
        obtain ⟨ys, hys⟩ := ih fun x hx => h x (List.mem_cons_of_mem _ hx)
        refine ⟨y :: ys, mapM_eq_ok_iff.mpr ?_⟩
        rw [List.map_cons, List.map_cons, hy, mapM_eq_ok_iff.mp hys]

/-- The first member that cannot be read ends it. -/
theorem mapM_eq_error_iff {f : α → Except ε β} {xs : List α} {e : ε} :
    xs.mapM f = .error e ↔ ∃ before x behind, xs = before ++ x :: behind
      ∧ (∀ y ∈ before, ∃ z, f y = .ok z) ∧ f x = .error e := by
  induction xs with
  | nil => exact iff_of_false nofun fun ⟨before, _, _, h, _⟩ => by cases before <;> cases h
  | cons x rest ih =>
      rw [List.mapM_cons]
      cases hx : f x with
      | error e' =>
          constructor
          · rintro ⟨⟩
            exact ⟨[], x, rest, rfl, nofun, hx⟩
          · rintro ⟨before, y, behind, h, hbefore, hy⟩
            cases before with
            | nil => cases h; rw [hx] at hy; cases hy; rfl
            | cons z before =>
                cases h
                obtain ⟨_, hz⟩ := hbefore x (List.mem_cons_self ..)
                rw [hx] at hz
                cases hz
      | ok z =>
          have hrest : (do let others ← rest.mapM f; pure (z :: others)) = .error e ↔
              rest.mapM f = .error e := by
            cases rest.mapM f with
            | error e' => exact ⟨fun h => by cases h; rfl, fun h => by cases h; rfl⟩
            | ok others => exact iff_of_false nofun nofun
          refine hrest.trans (ih.trans ⟨?_, ?_⟩)
          · rintro ⟨before, y, behind, rfl, hbefore, hy⟩
            exact ⟨x :: before, y, behind, rfl, List.forall_mem_cons.mpr ⟨⟨z, hx⟩, hbefore⟩, hy⟩
          · rintro ⟨before, y, behind, h, hbefore, hy⟩
            cases before with
            | nil => cases h; rw [hx] at hy; cases hy
            | cons _ before =>
                cases h
                exact ⟨before, y, behind, rfl, (List.forall_mem_cons.mp hbefore).2, hy⟩

end MetricGateway.Result
