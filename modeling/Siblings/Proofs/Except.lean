/-!
# Steps that may fail

A result may be an error. Then what comes behind it is not tried.

* `map_eq_ok_iff`, `map_eq_error_iff`: a result with something done to its value.
* `mapM_eq_ok_iff`, `mapM_eq_error_iff`: **the results of all elements, or the error of the first
  that fails.**
* `mapM_eq_ok_iff_exists_map`: the results as the images of a function.
* `foldlM_eq_error_iff`: a fold reports the first step that fails.
-/

namespace Siblings

variable {α β ε : Type}

theorem ok_bind (a : α) (f : α → Except ε β) : (.ok a >>= f) = f a := rfl

theorem bind_eq_ok_iff {x : Except ε α} {f : α → Except ε β} {b : β} :
    (x >>= f) = .ok b ↔ ∃ a, x = .ok a ∧ f a = .ok b := by
  cases x <;> simp [bind, Except.bind]

theorem map_eq_ok_iff {f : α → β} {x : Except ε α} {b : β} :
    x.map f = .ok b ↔ ∃ a, x = .ok a ∧ f a = b := by
  cases x <;> simp [Except.map]

theorem map_eq_error_iff {f : α → β} {x : Except ε α} {error : ε} :
    x.map f = .error error ↔ x = .error error := by
  cases x <;> simp [Except.map]

theorem mapError_eq_ok_iff {ε' : Type} {f : ε → ε'} {x : Except ε α} {a : α} :
    x.mapError f = .ok a ↔ x = .ok a := by
  cases x with
  | error error => exact iff_of_false nofun nofun
  | ok found =>
    have hmap : (Except.ok found : Except ε α).mapError f = .ok found := rfl
    rw [hmap, Except.ok.injEq, Except.ok.injEq]

theorem exists_map_eq_ok_iff {f : α → β} {x : Except ε α} :
    (∃ b, x.map f = .ok b) ↔ ∃ a, x = .ok a := by
  cases x <;> simp [Except.map]

/-- A map that may fail succeeds with the results of every element. -/
theorem mapM_eq_ok_iff {f : α → Except ε β} {items : List α} {results : List β} :
    items.mapM f = .ok results ↔ items.map f = results.map .ok := by
  induction items generalizing results with
  | nil => cases results <;> simp [pure, Except.pure]
  | cons item items ih =>
    rw [List.mapM_cons]
    cases hf : f item with
    | error e => cases results <;> simp [bind, Except.bind, hf]
    | ok first =>
      cases hm : items.mapM f with
      | error e => cases results <;> simp [bind, Except.bind, hf, hm, ← ih]
      | ok others => cases results <;> simp [bind, Except.bind, pure, Except.pure, hf, hm, ← ih]

/-- A map that succeeds has a function that gives the results. -/
theorem mapM_eq_ok_iff_exists_map [Inhabited β] {f : α → Except ε β} {items : List α}
    {results : List β} :
    items.mapM f = .ok results ↔
      ∃ image : α → β, results = items.map image ∧ ∀ item ∈ items, f item = .ok (image item) := by
  rw [mapM_eq_ok_iff]
  constructor
  · intro h
    -- no element fails, so nothing is put for a failure
    refine ⟨fun item => (f item).toOption.getD default, ?_, fun item hitem => ?_⟩
    · have hvalues := congrArg (List.map fun x : Except ε β => x.toOption.getD default) h
      rw [List.map_map, List.map_map] at hvalues
      exact ((List.map_id results).symm.trans hvalues.symm)
    · have hmem := List.mem_map_of_mem (f := f) hitem
      rw [h, List.mem_map] at hmem
      obtain ⟨result, -, hresult⟩ := hmem
      dsimp only
      rw [← hresult]
      rfl
  · rintro ⟨image, rfl, himage⟩
    rw [List.map_map]
    exact List.map_congr_left himage

/-- A map that may fail reports the first element that fails. -/
theorem mapM_eq_error_iff {f : α → Except ε β} {items : List α} {error : ε} :
    items.mapM f = .error error ↔
      ∃ before item after, items = before ++ item :: after ∧
        (∀ other ∈ before, ∃ result, f other = .ok result) ∧ f item = .error error := by
  induction items with
  | nil => simp [pure, Except.pure]
  | cons first items ih =>
    rw [List.mapM_cons]
    cases hf : f first with
    | error e =>
      constructor
      · intro h
        obtain rfl : e = error := by simpa [bind, Except.bind] using h
        exact ⟨[], first, items, rfl, by simp, hf⟩
      · rintro ⟨before, item, after, heq, hbefore, hitem⟩
        rcases List.cons_eq_append_iff.1 heq with ⟨rfl, hcons⟩ | ⟨tail, rfl, -⟩
        · obtain ⟨rfl, rfl⟩ := List.cons.inj hcons
          obtain rfl := Except.error.inj (hf.symm.trans hitem)
          rfl
        · obtain ⟨result, hresult⟩ := hbefore first List.mem_cons_self
          rw [hf] at hresult
          simp at hresult
    | ok result =>
      -- whether the rest fails does not depend on the first result
      have hrest : (Except.ok result >>= fun value => items.mapM f >>= fun values =>
          pure (value :: values)) = .error error ↔ items.mapM f = .error error := by
        cases items.mapM f <;> simp [bind, Except.bind, pure, Except.pure]
      rw [hrest, ih]
      constructor
      · rintro ⟨before, item, after, rfl, hbefore, hitem⟩
        exact ⟨first :: before, item, after, rfl,
          List.forall_mem_cons.2 ⟨⟨result, hf⟩, hbefore⟩, hitem⟩
      · rintro ⟨before, item, after, heq, hbefore, hitem⟩
        rcases List.cons_eq_append_iff.1 heq with ⟨rfl, hcons⟩ | ⟨tail, rfl, rfl⟩
        · obtain ⟨rfl, rfl⟩ := List.cons.inj hcons
          rw [hf] at hitem
          simp at hitem
        · exact ⟨tail, item, after, rfl, (List.forall_mem_cons.1 hbefore).2, hitem⟩

/-- Steps that give no value succeed if each of them does. -/
theorem forM_eq_ok_iff {f : α → Except ε Unit} {items : List α} :
    items.forM f = .ok () ↔ ∀ item ∈ items, f item = .ok () := by
  induction items with
  | nil => simp [pure, Except.pure]
  | cons item items ih =>
    have hstep : (item :: items).forM f = f item >>= fun _ => items.forM f := rfl
    rw [hstep, List.forall_mem_cons, ← ih]
    cases f item <;> simp [bind, Except.bind]

theorem exists_mapM_eq_ok_iff {f : α → Except ε β} {items : List α} :
    (∃ results, items.mapM f = .ok results) ↔ ∀ item ∈ items, ∃ result, f item = .ok result := by
  constructor
  · rintro ⟨results, h⟩ item hitem
    have hmem := List.mem_map_of_mem (f := f) hitem
    rw [mapM_eq_ok_iff.1 h, List.mem_map] at hmem
    obtain ⟨result, -, hresult⟩ := hmem
    exact ⟨result, hresult.symm⟩
  · intro hall
    cases h : items.mapM f with
    | ok results => exact ⟨results, rfl⟩
    | error e =>
      obtain ⟨before, item, after, rfl, -, hitem⟩ := mapM_eq_error_iff.1 h
      obtain ⟨result, hresult⟩ := hall item (by simp)
      rw [hitem] at hresult
      simp at hresult

/-- **A fold fails at the first step that fails:** all steps in front of it succeed, and those
behind it are not tried. -/
theorem foldlM_eq_error_iff {f : β → α → Except ε β} {init : β} {items : List α}
    {error : ε} :
    items.foldlM f init = .error error ↔
      ∃ before item after state, items = before ++ item :: after ∧
        before.foldlM f init = .ok state ∧ f state item = .error error := by
  induction items generalizing init with
  | nil => simp [pure, Except.pure]
  | cons first items ih =>
    rw [List.foldlM_cons]
    cases hf : f init first with
    | error e =>
      constructor
      · intro h
        obtain rfl : e = error := by simpa [bind, Except.bind] using h
        exact ⟨[], first, items, init, rfl, rfl, hf⟩
      · rintro ⟨before, item, after, state, heq, hbefore, hitem⟩
        rcases List.cons_eq_append_iff.1 heq with ⟨rfl, hcons⟩ | ⟨tail, rfl, -⟩
        · obtain ⟨rfl, rfl⟩ := List.cons.inj hcons
          obtain rfl : init = state := Except.ok.inj hbefore
          rw [← hitem, hf]
          rfl
        · rw [List.foldlM_cons, hf] at hbefore
          simp [bind, Except.bind] at hbefore
    | ok next =>
      have hstep : (Except.ok next >>= fun state => items.foldlM f state) = items.foldlM f next :=
        rfl
      rw [hstep, ih]
      constructor
      · rintro ⟨before, item, after, state, rfl, hbefore, hitem⟩
        refine ⟨first :: before, item, after, state, rfl, ?_, hitem⟩
        rw [List.foldlM_cons, hf]
        exact hbefore
      · rintro ⟨before, item, after, state, heq, hbefore, hitem⟩
        rcases List.cons_eq_append_iff.1 heq with ⟨rfl, hcons⟩ | ⟨tail, rfl, rfl⟩
        · -- the first step succeeds, so it is not the one that fails
          obtain ⟨rfl, rfl⟩ := List.cons.inj hcons
          obtain rfl : init = state := Except.ok.inj hbefore
          rw [hf] at hitem
          simp at hitem
        · rw [List.foldlM_cons, hf] at hbefore
          exact ⟨tail, item, after, state, rfl, hbefore, hitem⟩

end Siblings
