import Mathlib.Data.List.Basic

/-! # Paths

A path is cut at its separators into names; an empty name and `.` lead nowhere, `..` leads to the
folder above, but not out of the root. What the root is depends on the syntax of the system. A file
lies directly in a folder if its normal form is the folder's with one more name.

`liesDirectlyIn_iff`: a name with an extension, put behind a folder, names a file directly in it
exactly if what stands before its last separator leads from the folder back to it. -/

namespace LanternProject.Lib.Paths

variable {α : Type*}

/-- The separators, the character `.`, and how many of the first names of a path are its root. -/
structure PathSyntax (α : Type*) where
  isSep : α → Bool
  dot : α
  rootLength : List (List α) → ℕ

/-- A path in normal form. -/
structure Normal (α : Type*) where
  root : List (List α)
  names : List (List α)
deriving DecidableEq

variable (σ : PathSyntax α)

/-- The names of a path. -/
def components (path : List α) : List (List α) := path.splitOnP σ.isSep

/-- The names before the last separator. -/
def dirNames (path : List α) : List (List α) := (components σ path).dropLast

theorem components_append_sep {sep : α} (hsep : σ.isSep sep = true) (s t : List α) :
    components σ (s ++ sep :: t) = components σ s ++ components σ t :=
  List.splitOnP_append_cons s t hsep

theorem components_of_no_sep {s : List α} (h : ∀ c ∈ s, σ.isSep c = false) :
    components σ s = [s] := List.splitOnP_eq_singleton h

theorem dirNames_of_no_sep {s : List α} (h : ∀ c ∈ s, σ.isSep c = false) : dirNames σ s = [] := by
  rw [dirNames, components_of_no_sep σ h]
  rfl

/-- An extension belongs to the last name. -/
theorem components_append {t : List α} (ht : ∀ c ∈ t, σ.isSep c = false) (s : List α) :
    ∃ last, components σ (s ++ t) = dirNames σ s ++ [last ++ t] := by
  have key : ∃ dirs last, components σ s = dirs ++ [last] ∧
      components σ (s ++ t) = dirs ++ [last ++ t] := by
    induction s with
    | nil => exact ⟨[], [], rfl, components_of_no_sep σ ht⟩
    | cons c s ih =>
      obtain ⟨dirs, last, hs, hst⟩ := ih
      unfold components at hs hst ⊢
      rw [List.cons_append, List.splitOnP_cons_eq_if_modifyHead, List.splitOnP_cons_eq_if_modifyHead,
        hs, hst]
      by_cases hc : σ.isSep c = true
      · rw [if_pos hc, if_pos hc]
        exact ⟨[] :: dirs, last, rfl, rfl⟩
      · rw [if_neg hc, if_neg hc]
        rcases dirs with _ | ⟨d, dirs⟩
        · exact ⟨[], c :: last, rfl, rfl⟩
        · exact ⟨(c :: d) :: dirs, last, rfl, rfl⟩
  obtain ⟨dirs, last, hs, hst⟩ := key
  have hdirs : dirNames σ s = dirs := by rw [dirNames, hs, List.dropLast_concat]
  exact ⟨last, by rw [hdirs, hst]⟩

variable [DecidableEq α]

/-- Where a name leads from a folder. -/
def enter (folder : List (List α)) (name : List α) : List (List α) :=
  if name = [] ∨ name = [σ.dot] then folder
  else if name = [σ.dot, σ.dot] then folder.dropLast
  else folder ++ [name]

/-- Where names lead from a folder. -/
def resolve (folder : List (List α)) (names : List (List α)) : List (List α) :=
  names.foldl (enter σ) folder

/-- The normal form of a path. -/
def normalize (path : List α) : Normal α :=
  let names := components σ path
  let n := σ.rootLength names
  ⟨names.take n, resolve σ [] (names.drop n)⟩

/-- The file lies directly in the folder. -/
def LiesDirectlyIn (folder path : List α) : Prop :=
  ∃ name, normalize σ path = ⟨(normalize σ folder).root, (normalize σ folder).names ++ [name]⟩

theorem resolve_append (folder names names' : List (List α)) :
    resolve σ folder (names ++ names') = resolve σ (resolve σ folder names) names' :=
  List.foldl_append

/-- A name of more than two characters is entered. -/
theorem enter_of_length {name : List α} (h : 2 < name.length) (folder : List (List α)) :
    enter σ folder name = folder ++ [name] := by
  have hne : ∀ other : List α, other.length ≤ 2 → name ≠ other := by
    intro other hlen heq
    rw [heq] at h
    omega
  have hdot : ¬ (name = [] ∨ name = [σ.dot]) := by
    rintro (heq | heq)
    · exact hne [] (by simp) heq
    · exact hne [σ.dot] (by simp) heq
  rw [enter, if_neg hdot, if_neg (hne [σ.dot, σ.dot] (by simp))]

section
variable {σ} {base : List α} {sep : α}

/-- The normal form of what is put behind a path whose root is settled. -/
theorem normalize_append (hsep : σ.isSep sep = true)
    (hroot : ∀ names, σ.rootLength (components σ base ++ names) = σ.rootLength (components σ base))
    (hle : σ.rootLength (components σ base) ≤ (components σ base).length) (t : List α) :
    normalize σ (base ++ sep :: t) =
      ⟨(normalize σ base).root, resolve σ (normalize σ base).names (components σ t)⟩ := by
  unfold normalize
  rw [components_append_sep σ hsep]
  dsimp only
  rw [hroot, List.take_append_of_le_length hle, List.drop_append_of_le_length hle, resolve_append]

/-- **What lies directly in a folder.** -/
theorem liesDirectlyIn_iff (hsep : σ.isSep sep = true)
    (hroot : ∀ names, σ.rootLength (components σ base ++ names) = σ.rootLength (components σ base))
    (hle : σ.rootLength (components σ base) ≤ (components σ base).length) (name : List α)
    {ext : List α} (hext : ∀ c ∈ ext, σ.isSep c = false) (hlen : 2 < ext.length) :
    LiesDirectlyIn σ (base ++ [sep]) (base ++ [sep] ++ (name ++ ext)) ↔
      resolve σ (normalize σ base).names (dirNames σ name) = (normalize σ base).names := by
  have hfolder : normalize σ (base ++ [sep]) = normalize σ base := by
    have hnil : components σ [] = [[]] := rfl
    rw [normalize_append hsep hroot hle [], hnil]
    simp [resolve, enter]
  have hpath : base ++ [sep] ++ (name ++ ext) = base ++ sep :: (name ++ ext) := by simp
  obtain ⟨last, hcomponents⟩ := components_append σ hext name
  have hlast : 2 < (last ++ ext).length := by
    rw [List.length_append]
    omega
  have hresolve : resolve σ (normalize σ base).names (components σ (name ++ ext)) =
      resolve σ (normalize σ base).names (dirNames σ name) ++ [last ++ ext] := by
    rw [hcomponents, resolve_append]
    exact enter_of_length σ hlast _
  unfold LiesDirectlyIn
  rw [hpath, normalize_append hsep hroot hle, hfolder, hresolve]
  constructor
  · rintro ⟨n, hn⟩
    exact (List.append_inj' (Normal.mk.inj hn).2 rfl).1
  · intro h
    exact ⟨last ++ ext, by rw [h]⟩

end

end LanternProject.Lib.Paths
