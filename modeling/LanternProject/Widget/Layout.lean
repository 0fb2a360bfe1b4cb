import LanternProject.Widget.LanternWidget

/-! # What the layouts show of a text

The two characters `\n` of a text stand for a line break. `InitWidget` replaces them by one, ignoring
the case of the `n`, and spreads the text over boxes of eight characters: four of them on page 1 if
it has 17 to 31 characters, else two on page 0. So the first 32 characters are shown exactly if there
are at most 31, and none of them is a `\N` (`shows_whole_iff`). -/

namespace LanternProject.Widget.Layout

open LanternProject.Engine.Basic LanternProject.Engine.Str
open LanternProject.Widget.LanternWidget

/-- A text with a line break for every `\n`. -/
def newlines : FString → FString
  | [] => []
  | [c] => [c]
  | c :: d :: s => if c = 92 ∧ d = 110 then 10 :: newlines s else c :: newlines (d :: s)

/-- The text of the boxes of the active page, put together. -/
def shown (w : ULanternWidget) : FString := (w.rendered.texts.map UTextBlock.text).flatten

/-- The active page shows the first 32 characters of `text` in boxes of at most 8. -/
def ShowsWhole (w : ULanternWidget) (text : FString) : Prop :=
  shown w = left text 32 ∧ ∀ b ∈ w.rendered.texts, b.text.length ≤ 8

/-- The characters `\N`, which `InitWidget` replaces too. -/
def capitalBreak : FString := [92, 78]

/-! ### The replacement -/

theorem toLower_eq_backslash (c : TCHAR) : toLower c = 92 ↔ c = 92 := by
  rw [← UInt16.toNat_inj, ← UInt16.toNat_inj, toNat_toLower]
  simp only [UInt16.toNat_ofNat]
  split_ifs <;> omega

theorem toLower_eq_n (c : TCHAR) : toLower c = 110 ↔ c = 110 ∨ c = 78 := by
  rw [← UInt16.toNat_inj, ← UInt16.toNat_inj, ← UInt16.toNat_inj, toNat_toLower]
  simp only [UInt16.toNat_ofNat]
  split_ifs <;> omega

/-- The text `InitWidget` lays out. -/
abbrev newText (s : FString) : FString := replace s (TEXT "\\n") (TEXT "\n")

theorem newText_eq (s : FString) : newText s = replaceGo [92, 110] [10] 0 s := by
  have hs : TEXT "\\n" = [92, 110] := by decide
  have hr : TEXT "\n" = [10] := by decide
  rw [newText, replace, hs, hr]
  rfl

theorem newText_nil : newText [] = [] := by rw [newText_eq]; rfl

theorem newText_singleton (c : TCHAR) : newText [c] = [c] := by
  rw [newText_eq, replaceGo]
  have hs : startsWith [92, 110] [c] = false := by simp [startsWith, equalsIgnoreCase]
  rw [hs]
  rfl

theorem newText_cons (c d : TCHAR) (s : FString) : newText (c :: d :: s) =
    if c = 92 ∧ (d = 110 ∨ d = 78) then 10 :: newText s else c :: newText (d :: s) := by
  have hs : startsWith [92, 110] (c :: d :: s) = true ↔ c = 92 ∧ (d = 110 ∨ d = 78) := by
    have h1 : toLower 92 = 92 := by decide
    have h2 : toLower 110 = 110 := by decide
    simp only [startsWith, equalsIgnoreCase, List.map_cons, List.map_nil, List.length_cons,
      List.length_nil, List.take_succ_cons, List.take_zero, beq_iff_eq, List.cons.injEq, and_true,
      h1, h2, eq_comm (b := toLower _), toLower_eq_backslash, toLower_eq_n]
  rw [newText_eq, newText_eq, newText_eq, replaceGo]
  by_cases h : c = 92 ∧ (d = 110 ∨ d = 78)
  · rw [if_pos h, if_pos (hs.mpr h)]
    rfl
  · rw [if_neg h, if_neg (fun ht => h (hs.mp ht))]

theorem newText_cons_of_ne {c : TCHAR} (hc : c ≠ 92) (s : FString) :
    newText (c :: s) = c :: newText s := by
  rcases s with _ | ⟨d, s⟩
  · rw [newText_singleton, newText_nil]
  · rw [newText_cons, if_neg (fun h => hc h.1)]

theorem capitalBreak_cons (c d : TCHAR) (s : FString) :
    capitalBreak <:+: c :: d :: s ↔ (c = 92 ∧ d = 78) ∨ capitalBreak <:+: d :: s := by
  rw [List.infix_cons_iff]
  simp only [capitalBreak, List.cons_prefix_cons, List.nil_prefix, and_true, eq_comm (b := c),
    eq_comm (b := d)]

theorem capitalBreak_cons_of_ne {c : TCHAR} (hc : c ≠ 92) (s : FString) :
    capitalBreak <:+: c :: s ↔ capitalBreak <:+: s := by
  rcases s with _ | ⟨d, s⟩
  · refine iff_of_false (fun h => ?_) (by decide)
    have := h.length_le
    simp [capitalBreak] at this
  · rw [capitalBreak_cons]
    exact ⟨fun h => h.resolve_left (fun h => hc h.1), Or.inr⟩

/-- **The replacement is the intended one unless there is a `\N`**, which makes it too short. -/
theorem newText_cases (s : FString) :
    (capitalBreak <:+: s → (newText s).length < (newlines s).length) ∧
      (¬ capitalBreak <:+: s → newText s = newlines s) := by
  induction s using newlines.induct with
  | case1 =>
    rw [newText_nil]
    exact ⟨fun h => absurd h (by decide), fun _ => rfl⟩
  | case2 c =>
    rw [newText_singleton]
    refine ⟨fun h => ?_, fun _ => rfl⟩
    have := h.length_le
    simp [capitalBreak] at this
  | case3 c d s hcd ih =>
    -- a `\n`: both replace it, and none of the two characters begins a `\N`
    obtain ⟨rfl, rfl⟩ := hcd
    rw [newText_cons, if_pos ⟨rfl, Or.inl rfl⟩, newlines, if_pos ⟨rfl, rfl⟩, capitalBreak_cons,
      capitalBreak_cons_of_ne (by decide)]
    constructor
    · rintro (⟨-, h⟩ | h)
      · exact absurd h (by decide)
      · have := ih.1 h
        simp only [List.length_cons]
        omega
    · intro h
      rw [ih.2 (fun hs => h (Or.inr hs))]
  | case4 c d s hcd ih =>
    rw [newText_cons, newlines, if_neg hcd, capitalBreak_cons]
    have hle : (newText (d :: s)).length ≤ (newlines (d :: s)).length := by
      by_cases hs : capitalBreak <:+: d :: s
      · exact (ih.1 hs).le
      · rw [ih.2 hs]
    by_cases hN : c = 92 ∧ d = 78
    · -- a `\N`: only `InitWidget` replaces it
      obtain ⟨rfl, rfl⟩ := hN
      rw [if_pos ⟨rfl, Or.inr rfl⟩]
      refine ⟨fun _ => ?_, fun h => absurd (Or.inl ⟨rfl, rfl⟩) h⟩
      rw [newText_cons_of_ne (by decide)] at hle
      simp only [List.length_cons] at hle ⊢
      omega
    · have hneg : ¬ (c = 92 ∧ (d = 110 ∨ d = 78)) := by
        rintro ⟨hc, hd | hd⟩
        · exact hcd ⟨hc, hd⟩
        · exact hN ⟨hc, hd⟩
      rw [if_neg hneg]
      constructor
      · intro h
        have := ih.1 (h.resolve_left hN)
        simp only [List.length_cons]
        omega
      · intro h
        rw [ih.2 (fun hs => h (Or.inr hs))]

/-! ### The boxes -/

theorem left_append_mid (s : FString) (m n : ℕ) : left s m ++ mid s m n = left s (m + n) :=
  List.take_add.symm

theorem mid_eq_nil {s : FString} {start : ℕ} (h : s.length ≤ start) (n : ℕ) : mid s start n = [] := by
  simp [mid, List.drop_eq_nil_of_le h]

/-- A box is filled only if there is something left for it, which makes no difference. -/
theorem ite_mid (s : FString) (start n : ℕ) :
    (if s.length > start then mid s start n else []) = mid s start n := by
  split_ifs with h
  · rfl
  · exact (mid_eq_nil (not_lt.mp h) n).symm

theorem length_left (s : FString) (n : ℕ) : (left s n).length = min n s.length := List.length_take

theorem length_left_le (s : FString) (n : ℕ) : (left s n).length ≤ n := by
  rw [length_left]
  exact min_le_left _ _

theorem length_mid_le (s : FString) (start n : ℕ) : (mid s start n).length ≤ n := by
  rw [mid, List.length_take]
  exact min_le_left _ _

variable (w : ULanternWidget) (call : ℕ) (draw : Fin 2) {T : Option UTexture2D} {X : FString}

/-- The texts of the boxes of page 1. -/
theorem texts_secondPage (h0 : ¬ (T = none ∧ X = []))
    (h1 : (newText X).length > 16 ∧ (newText X).length < 32) :
    (w.initWidget call draw T X).rendered.texts.map UTextBlock.text =
      [left (newText X) 8, mid (newText X) 8 8, mid (newText X) 16 8, mid (newText X) 24 8] := by
  simp only [ULanternWidget.initWidget, if_neg h0, if_pos h1, ULanternWidget.rendered,
    ULanternWidget.page, verticalTextSet, UTextBlock.setText, Option.map_some, Option.getD_some,
    Option.isSome_some, and_true, ite_mid]
  rfl

/-- The texts of the boxes of page 0. -/
theorem texts_firstPage (h0 : ¬ (T = none ∧ X = []))
    (h1 : ¬ ((newText X).length > 16 ∧ (newText X).length < 32)) :
    (w.initWidget call draw T X).rendered.texts.map UTextBlock.text =
      [left (newText X) 8, mid (newText X) 8 8] := by
  by_cases h2 : X = [] ∧ T ≠ none
  · simp only [ULanternWidget.initWidget, if_neg h0, if_neg h1, if_pos h2,
      ULanternWidget.rendered, ULanternWidget.page, UTextBlock.setText]
    rw [h2.1, newText_nil]
    rfl
  · simp only [ULanternWidget.initWidget, if_neg h0, if_neg h1, if_neg h2,
      ULanternWidget.rendered, ULanternWidget.page, verticalTextSet, UTextBlock.setText,
      Option.map_some, Option.getD_some, ite_mid]
    rfl

/-- The boxes of the active page show the whole text if it has at most 31 characters, else its
first 16; no box holds more than 8. -/
theorem shown_initWidget (h0 : ¬ (T = none ∧ X = [])) :
    shown (w.initWidget call draw T X) =
      (if (newText X).length < 32 then newText X else left (newText X) 16) ∧
    ∀ b ∈ (w.initWidget call draw T X).rendered.texts, b.text.length ≤ 8 := by
  have hbox : ∀ {l : List FString}, (w.initWidget call draw T X).rendered.texts.map
      UTextBlock.text = l → (∀ t ∈ l, t.length ≤ 8) →
      ∀ b ∈ (w.initWidget call draw T X).rendered.texts, b.text.length ≤ 8 := by
    intro l hl hle b hb
    exact hle b.text (hl ▸ List.mem_map_of_mem hb)
  by_cases h1 : (newText X).length > 16 ∧ (newText X).length < 32
  · have ht := texts_secondPage w call draw h0 h1
    constructor
    · have hcat : left (newText X) 32 = newText X := List.take_of_length_le (by omega)
      rw [shown, ht, if_pos h1.2]
      simp only [List.flatten_cons, List.flatten_nil, List.append_nil, ← List.append_assoc,
        left_append_mid, hcat]
    · refine hbox ht ?_
      simp only [List.forall_mem_cons]
      exact ⟨length_left_le _ _, length_mid_le _ _ _, length_mid_le _ _ _, length_mid_le _ _ _,
        fun t ht => absurd ht (by simp)⟩
  · have ht := texts_firstPage w call draw h0 h1
    constructor
    · rw [shown, ht]
      simp only [List.flatten_cons, List.flatten_nil, List.append_nil, left_append_mid]
      split_ifs with hlt
      · exact List.take_of_length_le (by omega)
      · rfl
    · refine hbox ht ?_
      simp only [List.forall_mem_cons]
      exact ⟨length_left_le _ _, length_mid_le _ _ _, fun t ht => absurd ht (by simp)⟩

/-- **The first 32 characters are shown exactly if there are at most 31**, no `\N` among them. -/
theorem shows_whole_iff (w : ULanternWidget) (call : ℕ) (draw : Fin 2)
    (texture : Option UTexture2D) (text : FString) (h : ¬ (texture = none ∧ text = [])) :
    ShowsWhole (w.initWidget call draw texture text) (newlines text) ↔
      (newlines text).length < 32 ∧ ¬ capitalBreak <:+: text := by
  obtain ⟨hs, hbox⟩ := shown_initWidget w call draw h
  obtain ⟨hshort, hsame⟩ := newText_cases text
  have hle : (newText text).length ≤ (newlines text).length := by
    by_cases hN : capitalBreak <:+: text
    · exact (hshort hN).le
    · rw [hsame hN]
  rw [ShowsWhole, hs]
  constructor
  · rintro ⟨heq, -⟩
    have hlen := congrArg List.length heq
    rw [length_left] at hlen
    split_ifs at hlen with hlt
    · -- everything laid out is shown, so nothing was lost
      have hlen' : (newText text).length = (newlines text).length := by omega
      exact ⟨by omega, fun hN => absurd (hshort hN) (by omega)⟩
    · rw [length_left] at hlen
      omega
  · rintro ⟨hlt, hN⟩
    refine ⟨?_, hbox⟩
    rw [hsame hN, if_pos hlt, left, List.take_of_length_le (by omega)]

/-- Two lines of ten letters, on three boxes. -/
theorem shows_whole_iff_two_lines : ShowsWhole
    ((createWidget ⟨none, fun _ => [], firstPage⟩).initWidget 0 firstPage none
      (TEXT "ABCDEFGHIJ\\nKLMNOPQRST"))
    (TEXT "ABCDEFGHIJ\nKLMNOPQRST") :=
  (shows_whole_iff _ _ _ none (TEXT "ABCDEFGHIJ\\nKLMNOPQRST") (by decide)).mpr (by decide)

/-- **A text of exactly 32 characters loses half of them.** -/
theorem not_always_showsWhole : ¬ ∀ (w : ULanternWidget) (call : ℕ) (draw : Fin 2)
    (texture : Option UTexture2D) (text : FString), ¬ (texture = none ∧ text = []) →
      ShowsWhole (w.initWidget call draw texture text) (newlines text) := by
  intro h
  have hlong := (h (createWidget ⟨none, fun _ => [], firstPage⟩) 0 firstPage none
    (List.replicate 32 65) (by decide)).1
  exact absurd hlong (by decide)

end LanternProject.Widget.Layout
