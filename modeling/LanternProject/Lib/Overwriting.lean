import Mathlib.Data.List.Basic

/-! # Maps that are overwritten

A map is a list of entries; keys are compared by a normal form `f`. Adding overwrites the entry of a
key, as `find_add` says. When a list of items is gone through and some of them add an entry, the
value of a key is the one of the last item that adds it, and the old one if none does
(`find_addAll`). -/

namespace LanternProject.Lib.Overwriting

variable {κ κ' ν α : Type*}

/-! ### The last item -/

/-- The last item of a list with a property. -/
def IsLast (P : α → Prop) (l : List α) (a : α) : Prop :=
  ∃ pre post, l = pre ++ a :: post ∧ P a ∧ ∀ b ∈ post, ¬ P b

/-- If some item has the property, one of them is the last. -/
theorem exists_isLast {P : α → Prop} {l : List α} (h : ∃ a ∈ l, P a) : ∃ a, IsLast P l a := by
  induction l with
  | nil =>
    obtain ⟨a, ha, -⟩ := h
    exact absurd ha List.not_mem_nil
  | cons b l ih =>
    by_cases hl : ∃ a ∈ l, P a
    · obtain ⟨a, pre, post, rfl, ha, hpost⟩ := ih hl
      exact ⟨a, b :: pre, post, rfl, ha, hpost⟩
    · obtain ⟨a, ha, hPa⟩ := h
      rcases List.mem_cons.mp ha with rfl | ha
      · refine ⟨a, [], l, rfl, hPa, ?_⟩
        intro c hc hPc
        exact hl ⟨c, hc, hPc⟩
      · exact absurd ⟨a, ha, hPa⟩ hl

/-- The item adds the key with the value `v`. -/
def Adds (f : κ → κ') (entry : α → Option (κ × ν)) (k : κ) (v : ν) (a : α) : Prop :=
  ∃ j, entry a = some (j, v) ∧ f j = f k

theorem Adds.unique {f : κ → κ'} {entry : α → Option (κ × ν)} {k : κ} {v w : ν} {a : α}
    (h : Adds f entry k v a) (h' : Adds f entry k w a) : v = w := by
  obtain ⟨j, hj, -⟩ := h
  obtain ⟨j', hj', -⟩ := h'
  rw [hj] at hj'
  exact (Prod.mk.inj (Option.some.inj hj')).2

/-! ### Maps -/

variable [DecidableEq κ'] (f : κ → κ')

/-- The value of a key. -/
def find (m : List (κ × ν)) (k : κ) : Option ν := (m.find? fun p => decide (f p.1 = f k)).map Prod.snd

/-- An entry is added; one with the same key is overwritten. -/
def add (m : List (κ × ν)) (k : κ) (v : ν) : List (κ × ν) :=
  if m.any fun p => decide (f p.1 = f k) then m.map fun p => if f p.1 = f k then (k, v) else p
  else m ++ [(k, v)]

/-- The items of a list are added, those without an entry passed over. -/
def addAll (entry : α → Option (κ × ν)) (m : List (κ × ν)) (l : List α) : List (κ × ν) :=
  l.foldl (fun m a => match entry a with
    | none => m
    | some (k, v) => add f m k v) m

@[simp] theorem find_nil (k : κ) : find f ([] : List (κ × ν)) k = none := rfl

theorem find_cons (p : κ × ν) (m : List (κ × ν)) (k : κ) :
    find f (p :: m) k = if f p.1 = f k then some p.2 else find f m k := by
  unfold find
  rw [List.find?_cons]
  by_cases h : f p.1 = f k
  · simp [h]
  · have hb : (decide (f p.1 = f k)) = false := by simpa using h
    rw [hb, if_neg h]

/-- Overwriting entries in place. -/
theorem find_map (m : List (κ × ν)) (k j : κ) (v : ν) :
    find f (m.map fun p => if f p.1 = f k then (k, v) else p) j =
      if f k = f j ∧ (m.any fun p => decide (f p.1 = f k)) then some v else find f m j := by
  induction m with
  | nil => simp
  | cons p m ih =>
    rw [List.map_cons, find_cons, ih, find_cons, List.any_cons]
    by_cases hp : f p.1 = f k
    · have hb : (decide (f p.1 = f k)) = true := by simpa using hp
      rw [if_pos hp, hb, Bool.true_or, hp]
      by_cases hj : f k = f j
      · simp [hj]
      · simp [hj]
    · have hb : (decide (f p.1 = f k)) = false := by simpa using hp
      rw [if_neg hp, hb, Bool.false_or]
      by_cases hj : f k = f j
      · have hpj : f p.1 ≠ f j := hj ▸ hp
        rw [if_neg hpj, if_neg hpj]
      · simp [hj]

theorem find_append (m m' : List (κ × ν)) (k : κ) :
    find f (m ++ m') k = (find f m k).or (find f m' k) := by
  unfold find
  rw [List.find?_append, Option.map_or]

theorem find_eq_none_of_not_any {m : List (κ × ν)} {k j : κ}
    (h : ¬ (m.any fun p => decide (f p.1 = f k)) = true) (hj : f k = f j) : find f m j = none := by
  have hnone : ∀ p ∈ m, ¬ f p.1 = f j := by
    intro p hp he
    exact h (List.any_eq_true.mpr ⟨p, hp, by simp [he, hj]⟩)
  unfold find
  rw [Option.map_eq_none_iff, List.find?_eq_none]
  intro p hp he
  exact hnone p hp (by simpa using he)

/-- **Adding** overwrites the one key. -/
theorem find_add (m : List (κ × ν)) (k j : κ) (v : ν) :
    find f (add f m k v) j = if f k = f j then some v else find f m j := by
  unfold add
  split_ifs with h hj hj
  · rw [find_map, if_pos ⟨hj, h⟩]
  · rw [find_map, if_neg (fun hk => hj hk.1)]
  · have hnone := find_eq_none_of_not_any f h hj
    rw [find_append, hnone, find_cons, if_pos hj, Option.none_or]
  · rw [find_append, find_cons, if_neg hj, find_nil, Option.or_none]

variable {f} {entry : α → Option (κ × ν)}

theorem addAll_append (m : List (κ × ν)) (l l' : List α) :
    addAll f entry m (l ++ l') = addAll f entry (addAll f entry m l) l' := List.foldl_append

theorem addAll_cons (m : List (κ × ν)) (a : α) (l : List α) :
    addAll f entry m (a :: l) = addAll f entry (addAll f entry m [a]) l := rfl

/-- What one item does to a key. -/
theorem find_addAll_singleton (f : κ → κ') (entry : α → Option (κ × ν)) (m : List (κ × ν)) (a : α)
    (k : κ) :
    (∃ v, Adds f entry k v a ∧ find f (addAll f entry m [a]) k = some v) ∨
    ((∀ v, ¬ Adds f entry k v a) ∧ find f (addAll f entry m [a]) k = find f m k) := by
  rcases he : entry a with _ | ⟨j, v⟩
  · right
    refine ⟨?_, ?_⟩
    · rintro v ⟨j, hj, -⟩
      exact absurd (he.symm.trans hj) (by simp)
    · simp [addAll, he]
  · have hadd : addAll f entry m [a] = add f m j v := by simp [addAll, he]
    rw [hadd, find_add]
    by_cases hj : f j = f k
    · exact Or.inl ⟨v, ⟨j, he, hj⟩, if_pos hj⟩
    · right
      refine ⟨?_, if_neg hj⟩
      rintro v' ⟨j', hj', hk⟩
      have heq := Prod.mk.inj (Option.some.inj (he.symm.trans hj'))
      exact hj (heq.1 ▸ hk)

/-- If no item adds the key, its value is the old one. -/
theorem find_addAll_of_not_adds {k : κ} {l : List α} (m : List (κ × ν))
    (h : ∀ a ∈ l, ∀ v, ¬ Adds f entry k v a) : find f (addAll f entry m l) k = find f m k := by
  induction l generalizing m with
  | nil => rfl
  | cons a l ih =>
    have htail := ih (addAll f entry m [a]) (fun b hb => h b (List.mem_cons_of_mem _ hb))
    rw [addAll_cons, htail]
    rcases find_addAll_singleton f entry m a k with ⟨v, hv, -⟩ | ⟨-, hm⟩
    · exact absurd hv (h a List.mem_cons_self v)
    · exact hm

/-- **The last item wins.** -/
theorem find_addAll_of_isLast {k : κ} {l : List α} {a : α} {v : ν} (m : List (κ × ν))
    (ha : IsLast (fun a => ∃ v, Adds f entry k v a) l a) (hv : Adds f entry k v a) :
    find f (addAll f entry m l) k = some v := by
  obtain ⟨pre, post, rfl, -, hpost⟩ := ha
  rw [addAll_append, addAll_cons, find_addAll_of_not_adds _ fun b hb v hb' => hpost b hb ⟨v, hb'⟩]
  rcases find_addAll_singleton f entry (addAll f entry m pre) a k with ⟨w, hw, hm⟩ | ⟨hno, -⟩
  · rw [hm, hw.unique hv]
  · exact absurd hv (hno v)

/-- A key is there afterwards if it was before or some item adds it. -/
theorem find_addAll_ne_none_iff {k : κ} {l : List α} (m : List (κ × ν)) :
    find f (addAll f entry m l) k ≠ none ↔
      find f m k ≠ none ∨ ∃ a ∈ l, ∃ v, Adds f entry k v a := by
  by_cases h : ∃ a ∈ l, ∃ v, Adds f entry k v a
  · obtain ⟨a, ha⟩ := exists_isLast h
    obtain ⟨v, hv⟩ : ∃ v, Adds f entry k v a := by
      obtain ⟨-, -, -, hPa, -⟩ := ha
      exact hPa
    rw [find_addAll_of_isLast m ha hv]
    simp [h]
  · have hno : ∀ a ∈ l, ∀ v, ¬ Adds f entry k v a := fun a ha v hv => h ⟨a, ha, v, hv⟩
    rw [find_addAll_of_not_adds m hno]
    simp [h]

end LanternProject.Lib.Overwriting
