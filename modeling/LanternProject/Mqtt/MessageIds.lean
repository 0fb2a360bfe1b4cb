import Mathlib.Data.List.Basic
import Mathlib.Tactic.Common

/-! # Message ids

`MQTTAsync_assignMsgId` looks for a message id that is not in use, from the one after the last id it
gave and round to that one again. A client whose session was cleaned starts from `0`, which is no id:
then the search has no end to come to.

* `assign_spec`: what the search gives; `none` is a search that does not end. -/

namespace LanternProject.Mqtt.MessageIds

def MAX_MSG_ID : ℕ := 65535

/-- The id after an id. -/
def nextMsgId (msgid : ℕ) : ℕ := if msgid = MAX_MSG_ID then 1 else msgid + 1

/-- The loop of `MQTTAsync_assignMsgId`: `used` are the ids found in one of the lists. It ends within
as many turns as there are ids, or never. -/
def assignLoop (used : ℕ → Bool) (start_msgid : ℕ) : ℕ → ℕ → Option ℕ
  | 0, _ => none
  | turns + 1, msgid =>
    if used msgid then
      if nextMsgId msgid = start_msgid then some 0
      else assignLoop used start_msgid turns (nextMsgId msgid)
    else some msgid

/-- The next id to use, or `0` if there is none. -/
def assignMsgId (used : ℕ → Bool) (msgID : ℕ) : Option ℕ :=
  assignLoop used msgID (MAX_MSG_ID + 1) (nextMsgId msgID)

/-- The id `k` places after `start`, on the circle of ids. -/
def idAfter (start k : ℕ) : ℕ := (start + k - 1) % MAX_MSG_ID + 1

variable {used : ℕ → Bool} {start k n : ℕ}

theorem idAfter_range (start k : ℕ) : 1 ≤ idAfter start k ∧ idAfter start k ≤ MAX_MSG_ID := by
  unfold idAfter MAX_MSG_ID
  omega

theorem nextMsgId_eq (h : start ≤ MAX_MSG_ID) : nextMsgId start = idAfter start 1 := by
  unfold nextMsgId idAfter MAX_MSG_ID at *
  split_ifs <;> omega

theorem nextMsgId_idAfter (hk : 1 ≤ k) : nextMsgId (idAfter start k) = idAfter start (k + 1) := by
  unfold nextMsgId idAfter MAX_MSG_ID
  split_ifs <;> omega

/-- The search comes to its start again after all the other ids. -/
theorem idAfter_eq_start (h : start ≤ MAX_MSG_ID) (hk : 1 ≤ k) (hk' : k ≤ MAX_MSG_ID) :
    idAfter start k = start ↔ start ≠ 0 ∧ k = MAX_MSG_ID := by
  unfold idAfter MAX_MSG_ID at *
  omega

/-- Every id but the start is met on the way round. -/
theorem exists_idAfter (h : start ≤ MAX_MSG_ID) {i : ℕ} (hi : 1 ≤ i) (hi' : i ≤ MAX_MSG_ID) :
    ∃ k, 1 ≤ k ∧ k ≤ MAX_MSG_ID ∧ idAfter start k = i ∧ (k = MAX_MSG_ID → i = start ∨ start = 0) := by
  unfold idAfter MAX_MSG_ID at *
  rcases Nat.lt_or_ge start i with hlt | hge
  · exact ⟨i - start, by omega, by omega, by omega, by omega⟩
  · exact ⟨65535 - start + i, by omega, by omega, by omega, by omega⟩

/-- What the search gives: the first id that is free, `0` after all the others, nothing. -/
inductive Search (used : ℕ → Bool) (start k n : ℕ) : Option ℕ → Prop
  | found (j : ℕ) (hj : k ≤ j) (hlt : j < k + n) (hround : start ≠ 0 → j < MAX_MSG_ID)
      (hused : ∀ i, k ≤ i → i < j → used (idAfter start i) = true)
      (hfree : used (idAfter start j) = false) : Search used start k n (some (idAfter start j))
  | exhausted (hstart : start ≠ 0)
      (hused : ∀ i, k ≤ i → i < MAX_MSG_ID → used (idAfter start i) = true) :
      Search used start k n (some 0)
  | endless (hstart : start = 0)
      (hused : ∀ i, k ≤ i → i < k + n → used (idAfter start i) = true) : Search used start k n none

/-- One more id that is in use. -/
theorem Search.cons {r : Option ℕ} (h : Search used start (k + 1) n r)
    (hk : used (idAfter start k) = true) : Search used start k (n + 1) r := by
  have hstep : ∀ {m : ℕ}, (∀ i, k + 1 ≤ i → i < m → used (idAfter start i) = true) →
      ∀ i, k ≤ i → i < m → used (idAfter start i) = true := by
    intro m hm i hi him
    rcases Nat.eq_or_lt_of_le hi with rfl | hlt
    · exact hk
    · exact hm i hlt him
  cases h with
  | found j hj hlt hround hused hfree =>
    exact .found j (by omega) (by omega) hround (hstep hused) hfree
  | exhausted hstart hused => exact .exhausted hstart (hstep hused)
  | endless hstart hused =>
    exact .endless hstart (hstep fun i hi him => hused i hi (by omega))

/-- **The loop**, by induction on the turns that are left. -/
theorem assignLoop_search (h : start ≤ MAX_MSG_ID) : ∀ {n k : ℕ}, 1 ≤ k →
    (start ≠ 0 → k < MAX_MSG_ID ∧ MAX_MSG_ID ≤ k + n) →
    Search used start k n (assignLoop used start n (idAfter start k)) := by
  intro n
  induction n with
  | zero =>
    intro k hk hround
    rcases Nat.eq_zero_or_pos start with h0 | hpos
    · exact .endless h0 (by omega)
    · have hr := hround (by omega)
      omega
  | succ n ih =>
    intro k hk hround
    rw [assignLoop]
    split_ifs with hused hstart
    · rw [nextMsgId_idAfter hk] at hstart
      by_cases h0 : start = 0
      · have hrange := (idAfter_range start (k + 1)).1
        omega
      · obtain ⟨hlt, -⟩ := hround h0
        obtain ⟨-, hmax⟩ := (idAfter_eq_start h (by omega) (by omega)).mp hstart
        refine .exhausted h0 fun i hi him => ?_
        obtain rfl : i = k := by omega
        exact hused
    · rw [nextMsgId_idAfter hk] at hstart ⊢
      refine (ih (by omega) fun h0 => ?_).cons hused
      obtain ⟨hlt, hle⟩ := hround h0
      have hne : k + 1 ≠ MAX_MSG_ID := by
        intro hmax
        exact hstart ((idAfter_eq_start h (by omega) (by omega)).mpr ⟨h0, hmax⟩)
      omega
    · refine .found k (Nat.le_refl k) (by omega) (fun h0 => (hround h0).1) (by omega) ?_
      simpa using hused

theorem search_assignMsgId (h : start ≤ MAX_MSG_ID) :
    Search used start 1 (MAX_MSG_ID + 1) (assignMsgId used start) := by
  rw [assignMsgId, nextMsgId_eq h]
  exact assignLoop_search h (Nat.le_refl 1) fun _ => by unfold MAX_MSG_ID; omega

/-- An id that is given is free. -/
theorem free_of_assign (h : start ≤ MAX_MSG_ID) {i : ℕ} (hassign : assignMsgId used start = some i)
    (hi : i ≠ 0) : 1 ≤ i ∧ i ≤ MAX_MSG_ID ∧ used i = false := by
  have hsearch := @search_assignMsgId used _ h
  rw [hassign] at hsearch
  cases hsearch with
  | found j hj hlt hround hused hfree => exact ⟨(idAfter_range _ _).1, (idAfter_range _ _).2, hfree⟩
  | exhausted => exact absurd rfl hi

/-- A search that does not end has found all ids in use. -/
theorem used_of_endless (h : start ≤ MAX_MSG_ID) (hassign : assignMsgId used start = none) :
    start = 0 ∧ ∀ i, 1 ≤ i → i ≤ MAX_MSG_ID → used i = true := by
  have hsearch := @search_assignMsgId used _ h
  rw [hassign] at hsearch
  cases hsearch with
  | endless hstart hused =>
    refine ⟨hstart, fun i hi hi' => ?_⟩
    obtain ⟨k, hk, hk', rfl, -⟩ := exists_idAfter h hi hi'
    exact hused k hk (by omega)

/-- **The id that is given**: the first free one after the last one that was given, the latter never
again at once; `0` exactly if all the others are in use; and if the last one was `0`, the search does
not end exactly if all ids are in use. -/
theorem assign_spec (h : start ≤ MAX_MSG_ID) :
    match assignMsgId used start with
    | some 0 => start ≠ 0 ∧ ∀ i, 1 ≤ i → i ≤ MAX_MSG_ID → i ≠ start → used i = true
    | some i => 1 ≤ i ∧ i ≤ MAX_MSG_ID ∧ used i = false ∧ i ≠ start ∧
        ∃ j, i = idAfter start j ∧ 1 ≤ j ∧ ∀ j', 1 ≤ j' → j' < j → used (idAfter start j') = true
    | none => start = 0 ∧ ∀ i, 1 ≤ i → i ≤ MAX_MSG_ID → used i = true := by
  have hsearch := @search_assignMsgId used _ h
  have hendless := @used_of_endless used _ h
  generalize assignMsgId used start = r at hsearch hendless ⊢
  cases hsearch with
  | found j hj hlt hround hused hfree =>
    obtain ⟨hpos, hmax⟩ := idAfter_range start j
    have hne : idAfter start j ≠ start := by
      intro heq
      by_cases h0 : start = 0
      · omega
      · have hlt' := hround h0
        have hiff := (idAfter_eq_start h hj (by omega)).mp heq
        omega
    obtain ⟨i, hi⟩ : ∃ i, idAfter start j = i + 1 := ⟨idAfter start j - 1, by omega⟩
    rw [hi] at hpos hmax hfree hne ⊢
    exact ⟨hpos, hmax, hfree, hne, j, hi.symm, hj, hused⟩
  | exhausted hstart hused =>
    refine ⟨hstart, fun i hi hi' hne => ?_⟩
    obtain ⟨k, hk, hk', rfl, hround⟩ := exists_idAfter h hi hi'
    refine hused k hk (Nat.lt_of_le_of_ne hk' fun hmax => ?_)
    rcases hround hmax with heq | h0
    · exact hne heq
    · exact hstart h0
  | endless => exact hendless rfl

/-- The search goes round: after `65534` the last id is in use. -/
theorem assign_spec_round : 1 ≤ 1 ∧ 1 ≤ MAX_MSG_ID ∧ decide (1 = MAX_MSG_ID) = false ∧ 1 ≠ 65534 ∧
    ∃ j, 1 = idAfter 65534 j ∧ 1 ≤ j ∧
      ∀ j', 1 ≤ j' → j' < j → decide (idAfter 65534 j' = MAX_MSG_ID) = true := by
  have hspec := @assign_spec (fun i => decide (i = MAX_MSG_ID)) 65534 (by decide)
  have hassign : assignMsgId (fun i => decide (i = MAX_MSG_ID)) 65534 = some 1 := by decide +kernel
  rw [hassign] at hspec
  exact hspec

end LanternProject.Mqtt.MessageIds
