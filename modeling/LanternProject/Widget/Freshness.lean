import LanternProject.Widget.LanternWidget

/-! # Whose letter a lantern shows

A lantern is *fresh* if its letter shows nothing supplied by an earlier call. The layouts of
`initWidget` overwrite everything their page shows, so a call with a text or an image is always
fresh (`initWidget_fresh`). A call with neither only picks a page and shows what is left there:
something of an earlier call exactly if an earlier call for the same type was laid out on that page
(`WidgetInv`, kept by every call). Hence `fresh_iff`. -/

namespace LanternProject.Widget.Freshness

open LanternProject.Engine.Basic LanternProject.Engine.Str
open LanternProject.Widget.LanternWidget

/-- The letter shows a text or an image supplied by `call`. -/
def Shows (l : Letter) (call : ℕ) : Prop :=
  (∃ i, l.image = some i ∧ i.brush ≠ none ∧ i.setBy = some call) ∨
    ∃ t ∈ l.texts, t.text ≠ [] ∧ t.setBy = some call

/-- One call of `JustSpawnLantern`. -/
structure Call where
  texture : Option UTexture2D
  text : FString
  choice : SpawnChoice

/-- The calls one after the other. -/
def spawnAll (types : LanternTypes) (calls : List Call) : Except Fault LanternTypes :=
  calls.foldlM (fun ts c => do return (← justSpawnLantern ts c.texture c.text c.choice).1) types

/-- The page a call with a text or an image is laid out on. -/
def layoutPage (texture : Option UTexture2D) (text : FString) : Option (Fin 2) :=
  if texture = none ∧ text = [] then none
  else if (replace text (TEXT "\\n") (TEXT "\n")).length > 16 ∧
      (replace text (TEXT "\\n") (TEXT "\n")).length < 32 then some secondPage
  else some firstPage

/-- A call for type `k` was laid out on page `p`. -/
def Written (calls : List Call) (k : ℕ) (p : Fin 2) : Prop :=
  ∃ c ∈ calls, c.choice.typeIndex = k ∧ layoutPage c.texture c.text = some p

/-! ### The layouts -/

theorem page_zero (w : ULanternWidget) : w.page 0 = ⟨some w.imgImage, [w.tbText1, w.tbText2]⟩ := rfl

theorem page_one (w : ULanternWidget) :
    w.page 1 = ⟨none, [w.tbText3, w.tbText4, w.tbText5, w.tbText6]⟩ := rfl

theorem randomize_draw (w : ULanternWidget) (draw : Fin 2) :
    w.randomize (-1) draw = { w with activeWidgetIndex := draw } := by
  match draw with
  | 0 => rfl
  | 1 => rfl

/-- What a call can do to a widget: pick a page, fill page 1, or fill page 0, leaving the boxes 5
and 6 as they are and the boxes 3 and 4 either as they are or empty. -/
theorem initWidget_cases (w : ULanternWidget) (n : ℕ) (draw : Fin 2) (T : Option UTexture2D)
    (X : FString) :
    ((T = none ∧ X = []) ∧ layoutPage T X = none ∧
      w.initWidget n draw T X = { w with activeWidgetIndex := draw }) ∨
    (layoutPage T X = some 1 ∧ ∃ a b c d : FString, c ≠ [] ∧
      w.initWidget n draw T X = { w with
        activeWidgetIndex := 1, tbText3 := ⟨a, some n⟩, tbText4 := ⟨b, some n⟩,
        tbText5 := ⟨c, some n⟩, tbText6 := ⟨d, some n⟩ }) ∨
    (layoutPage T X = some 0 ∧ ∃ (a b : FString) (t3 t4 : UTextBlock), (T ≠ none ∨ a ≠ []) ∧
      (t3 = w.tbText3 ∨ t3 = ⟨[], some n⟩) ∧ (t4 = w.tbText4 ∨ t4 = ⟨[], some n⟩) ∧
      w.initWidget n draw T X = { w with
        activeWidgetIndex := 0, imgImage := ⟨T, some n⟩, tbText1 := ⟨a, some n⟩,
        tbText2 := ⟨b, some n⟩, tbText3 := t3, tbText4 := t4 }) := by
  set N := replace X (TEXT "\\n") (TEXT "\n") with hN
  by_cases h0 : T = none ∧ X = []
  · refine Or.inl ⟨h0, by rw [layoutPage, if_pos h0], ?_⟩
    rw [ULanternWidget.initWidget, if_pos h0, randomize_draw]
  by_cases h1 : N.length > 16 ∧ N.length < 32
  · refine Or.inr (Or.inl ⟨by rw [layoutPage, if_neg h0, if_pos h1], left N 8, mid N 8 8,
      mid N 16 8, if N.length > 24 then mid N 24 8 else [], mid_ne_nil h1.1 (by omega), ?_⟩)
    have h8 : N.length > 8 := by omega
    simp only [ULanternWidget.initWidget, if_neg h0, ← hN, if_pos h1, verticalTextSet,
      UTextBlock.setText, Option.map_some, Option.getD_some, if_pos h8, if_pos h1.1,
      Option.isSome_some, and_true]
  right; right
  refine ⟨by rw [layoutPage, if_neg h0, if_neg h1], ?_⟩
  by_cases h2 : X = [] ∧ T ≠ none
  · refine ⟨[], [], w.tbText3, w.tbText4, Or.inl h2.2, Or.inl rfl, Or.inl rfl, ?_⟩
    simp only [ULanternWidget.initWidget, if_neg h0, ← hN, if_neg h1, if_pos h2,
      UTextBlock.setText, UImage.setBrushFromTexture]
  · refine ⟨left N 8, if N.length > 8 then mid N 8 8 else [], ⟨[], some n⟩, ⟨[], some n⟩, ?_,
      Or.inr rfl, Or.inr rfl, ?_⟩
    · -- without an image the text is not empty, and so is what replaces it
      by_cases hT : T = none
      · exact Or.inr (left_ne_nil (replace_ne_nil (fun hX => h0 ⟨hT, hX⟩) (by decide)) (by omega))
      · exact Or.inl hT
    · simp only [ULanternWidget.initWidget, if_neg h0, ← hN, if_neg h1, if_neg h2,
        verticalTextSet, UTextBlock.setText, UImage.setBrushFromTexture, Option.map_some,
        Option.getD_some]

/-- **A call with a text or an image shows nothing else.** -/
theorem initWidget_fresh {w : ULanternWidget} {n call : ℕ} {draw : Fin 2} {T : Option UTexture2D}
    {X : FString} (h : T ≠ none ∨ X ≠ [])
    (hs : Shows (w.initWidget n draw T X).rendered call) : call = n := by
  rcases initWidget_cases w n draw T X with ⟨⟨hT, hX⟩, -, -⟩ | ⟨-, a, b, c, d, -, he⟩ |
    ⟨-, a, b, t3, t4, -, -, -, he⟩
  · rcases h with h | h
    · exact absurd hT h
    · exact absurd hX h
  · rw [he] at hs
    rcases hs with ⟨i, hi, -⟩ | ⟨t, ht, -, hset⟩
    · cases hi
    · simp only [ULanternWidget.rendered, page_one, List.mem_cons, List.not_mem_nil, or_false] at ht
      rcases ht with rfl | rfl | rfl | rfl <;> exact (Option.some.inj hset).symm
  · rw [he] at hs
    rcases hs with ⟨i, hi, -, hset⟩ | ⟨t, ht, -, hset⟩
    · simp only [ULanternWidget.rendered, page_zero, Option.some.injEq] at hi
      subst hi
      exact (Option.some.inj hset).symm
    · simp only [ULanternWidget.rendered, page_zero, List.mem_cons, List.not_mem_nil,
        or_false] at ht
      rcases ht with rfl | rfl <;> exact (Option.some.inj hset).symm

/-! ### What is left on the pages -/

/-- After `n` calls, `written p` telling whether one was laid out on page `p`: a page shows
something of a call exactly if one was, and on page 1 the fifth box does. -/
structure WidgetInv (w : ULanternWidget) (written : Fin 2 → Prop) (n : ℕ) : Prop where
  lt : ∀ p call, Shows (w.page p) call → call < n
  shows_iff : ∀ p, (∃ call, Shows (w.page p) call) ↔ written p
  five : ∀ call, Shows (w.page 1) call → w.tbText5.text ≠ [] ∧ ∃ c, w.tbText5.setBy = some c

theorem widgetInv_mono {w : ULanternWidget} {written : Fin 2 → Prop} {n : ℕ}
    (h : WidgetInv w written n) : WidgetInv w written (n + 1) :=
  ⟨fun p call hs => Nat.lt_succ_of_lt (h.lt p call hs), h.shows_iff, h.five⟩

theorem widgetInv_createWidget (a : WidgetAsset) :
    WidgetInv (createWidget a) (fun _ => False) 0 := by
  have hnone : ∀ p call, ¬ Shows ((createWidget a).page p) call := by
    intro p call hs
    match p with
    | 0 =>
      rw [page_zero] at hs
      rcases hs with ⟨i, hi, -, hset⟩ | ⟨t, ht, -, hset⟩
      · cases hi; cases hset
      · simp only [List.mem_cons, List.not_mem_nil, or_false] at ht
        rcases ht with rfl | rfl <;> cases hset
    | 1 =>
      rw [page_one] at hs
      rcases hs with ⟨i, hi, -⟩ | ⟨t, ht, -, hset⟩
      · cases hi
      · simp only [List.mem_cons, List.not_mem_nil, or_false] at ht
        rcases ht with rfl | rfl | rfl | rfl <;> cases hset
  exact ⟨fun p call hs => absurd hs (hnone p call),
    fun p => ⟨fun ⟨call, hs⟩ => hnone p call hs, False.elim⟩,
    fun call hs => absurd hs (hnone 1 call)⟩

theorem shows_of_five {w : ULanternWidget} {c : ℕ} (ht : w.tbText5.text ≠ [])
    (hc : w.tbText5.setBy = some c) : Shows (w.page 1) c :=
  Or.inr ⟨w.tbText5, by rw [page_one]; simp, ht, hc⟩

section Filled
variable {w : ULanternWidget} {written : Fin 2 → Prop} {n : ℕ} {active : Fin 2}

/-- Call `n` has filled page 1, whichever is active, -/
def filledOne (w : ULanternWidget) (n : ℕ) (active : Fin 2) (a b c d : FString) : ULanternWidget :=
  { w with
    activeWidgetIndex := active, tbText3 := ⟨a, some n⟩, tbText4 := ⟨b, some n⟩,
    tbText5 := ⟨c, some n⟩, tbText6 := ⟨d, some n⟩ }

/-- or page 0, and the third and the fourth box may have been emptied. -/
def filledZero (w : ULanternWidget) (n : ℕ) (active : Fin 2) (T : Option UTexture2D)
    (a b : FString) (t3 t4 : UTextBlock) : ULanternWidget :=
  { w with
    activeWidgetIndex := active, imgImage := ⟨T, some n⟩, tbText1 := ⟨a, some n⟩,
    tbText2 := ⟨b, some n⟩, tbText3 := t3, tbText4 := t4 }

theorem widgetInv_filledOne (h : WidgetInv w written n) (a b : FString) {c : FString} (d : FString)
    (hc : c ≠ []) :
    WidgetInv (filledOne w n active a b c d) (fun p => written p ∨ some 1 = some p) (n + 1) := by
  have h5 : Shows ((filledOne w n active a b c d).page 1) n := shows_of_five hc rfl
  refine ⟨fun p call hs => ?_, fun p => ?_, fun call _ => ⟨hc, n, rfl⟩⟩
  · match p with
    | 0 => exact Nat.lt_succ_of_lt (h.lt 0 call hs)
    | 1 =>
      rcases hs with ⟨i, hi, -⟩ | ⟨t, ht, -, hset⟩
      · cases hi
      · simp only [filledOne, page_one, List.mem_cons, List.not_mem_nil, or_false] at ht
        rcases ht with rfl | rfl | rfl | rfl <;> cases hset <;> exact Nat.lt_succ_self n
  · match p with
    | 0 => exact (h.shows_iff 0).trans (by simp)
    | 1 => exact ⟨fun _ => Or.inr rfl, fun _ => ⟨n, h5⟩⟩

section Zero
variable {T : Option UTexture2D} {a b : FString} {t3 t4 : UTextBlock}
  (ht3 : t3 = w.tbText3 ∨ t3 = ⟨[], some n⟩) (ht4 : t4 = w.tbText4 ∨ t4 = ⟨[], some n⟩)
include ht3 ht4

/-- Filling page 0 brings nothing to page 1. -/
theorem shows_of_filledZero {call : ℕ} (hs : Shows ((filledZero w n active T a b t3 t4).page 1) call) :
    Shows (w.page 1) call := by
  rcases hs with ⟨i, hi, -⟩ | ⟨t, ht, htext, hset⟩
  · cases hi
  · simp only [filledZero, page_one, List.mem_cons, List.not_mem_nil, or_false] at ht
    refine Or.inr ⟨t, ?_, htext, hset⟩
    simp only [page_one, List.mem_cons, List.not_mem_nil, or_false]
    rcases ht with rfl | rfl | rfl | rfl
    · rcases ht3 with rfl | rfl
      · exact Or.inl rfl
      · exact absurd rfl htext
    · rcases ht4 with rfl | rfl
      · exact Or.inr (Or.inl rfl)
      · exact absurd rfl htext
    · exact Or.inr (Or.inr (Or.inl rfl))
    · exact Or.inr (Or.inr (Or.inr rfl))

theorem widgetInv_filledZero (h : WidgetInv w written n) (hab : T ≠ none ∨ a ≠ []) :
    WidgetInv (filledZero w n active T a b t3 t4) (fun p => written p ∨ some 0 = some p) (n + 1) := by
  have hold : ∀ call, Shows ((filledZero w n active T a b t3 t4).page 1) call → Shows (w.page 1) call :=
    fun _ => shows_of_filledZero ht3 ht4
  refine ⟨fun p call hs => ?_, fun p => ?_, fun call hs => h.five call (hold call hs)⟩
  · match p with
    | 0 =>
      rcases hs with ⟨i, hi, -, hset⟩ | ⟨t, ht, -, hset⟩
      · simp only [filledZero, page_zero, Option.some.injEq] at hi
        subst hi
        cases hset
        exact Nat.lt_succ_self n
      · simp only [filledZero, page_zero, List.mem_cons, List.not_mem_nil, or_false] at ht
        rcases ht with rfl | rfl <;> cases hset <;> exact Nat.lt_succ_self n
    | 1 => exact Nat.lt_succ_of_lt (h.lt 1 call (hold call hs))
  · match p with
    | 0 =>
      refine ⟨fun _ => Or.inr rfl, fun _ => ⟨n, ?_⟩⟩
      rcases hab with hT | ha
      · exact Or.inl ⟨⟨T, some n⟩, rfl, hT, rfl⟩
      · exact Or.inr ⟨⟨a, some n⟩, by rw [page_zero]; simp [filledZero], ha, rfl⟩
    | 1 =>
      -- page 1 shows something of a call exactly if its fifth box does
      constructor
      · rintro ⟨call, hs⟩
        exact Or.inl ((h.shows_iff 1).mp ⟨call, hold call hs⟩)
      · rintro (hw | hw)
        · obtain ⟨call, hs⟩ := (h.shows_iff 1).mpr hw
          obtain ⟨htext, k, hk⟩ := h.five call hs
          exact ⟨k, shows_of_five htext hk⟩
        · simp at hw

end Zero

theorem widgetInv_initWidget (h : WidgetInv w written n) (draw : Fin 2) (T : Option UTexture2D)
    (X : FString) :
    WidgetInv (w.initWidget n draw T X) (fun p => written p ∨ layoutPage T X = some p) (n + 1) := by
  rcases initWidget_cases w n draw T X with ⟨-, hl, he⟩ | ⟨hl, a, b, c, d, hc, he⟩ |
    ⟨hl, a, b, t3, t4, hab, ht3, ht4, he⟩
  · -- only the active page changes
    rw [he, hl]
    refine ⟨fun p call hs => Nat.lt_succ_of_lt (h.lt p call hs), fun p => ?_, h.five⟩
    exact (h.shows_iff p).trans (by simp)
  · rw [he, hl]
    exact widgetInv_filledOne h a b d hc
  · rw [he, hl]
    exact widgetInv_filledZero ht3 ht4 h hab

end Filled

/-! ### Sequences of calls -/

/-- The widgets after the calls `calls`. -/
structure TypesInv (types : LanternTypes) (calls : List Call) : Prop where
  calls_eq : types.calls = calls.length
  widget : ∀ k w, types.widgets[k]? = some w → WidgetInv w (Written calls k) calls.length

theorem typesInv_createTypes (assets : List WidgetAsset) : TypesInv (createTypes assets) [] := by
  refine ⟨rfl, fun k w hw => ?_⟩
  simp only [createTypes, List.getElem?_map, Option.map_eq_some_iff] at hw
  obtain ⟨a, -, rfl⟩ := hw
  have hW : Written [] k = fun _ => False := by
    funext p
    simp [Written]
  rw [hW]
  exact widgetInv_createWidget a

theorem written_snoc {calls : List Call} {c : Call} {k : ℕ} {p : Fin 2} :
    Written (calls ++ [c]) k p ↔
      Written calls k p ∨ (c.choice.typeIndex = k ∧ layoutPage c.texture c.text = some p) := by
  simp only [Written, List.mem_append, List.mem_singleton]
  constructor
  · rintro ⟨c', hc | rfl, h⟩
    · exact Or.inl ⟨c', hc, h⟩
    · exact Or.inr h
  · rintro (⟨c', hc, h⟩ | h)
    · exact ⟨c', Or.inl hc, h⟩
    · exact ⟨c, Or.inr rfl, h⟩

theorem typesInv_step {types types' : LanternTypes} {calls : List Call} {c : Call}
    {lantern : Lantern} (h : TypesInv types calls)
    (hs : justSpawnLantern types c.texture c.text c.choice = .ok (types', lantern)) :
    TypesInv types' (calls ++ [c]) := by
  obtain ⟨w, hw, rfl, -⟩ := justSpawnLantern_ok hs
  refine ⟨by simp [h.calls_eq], fun k w' hw' => ?_⟩
  rw [List.length_append, List.length_singleton]
  by_cases hk : c.choice.typeIndex = k
  · subst hk
    have hlt := (List.getElem?_eq_some_iff.mp hw).1
    rw [List.getElem?_set_self hlt] at hw'
    cases hw'
    rw [h.calls_eq]
    have hW : Written (calls ++ [c]) c.choice.typeIndex =
        fun p => Written calls c.choice.typeIndex p ∨ layoutPage c.texture c.text = some p := by
      funext p
      simp [written_snoc]
    rw [hW]
    exact widgetInv_initWidget (h.widget _ w hw) _ _ _
  · rw [List.getElem?_set_ne hk] at hw'
    have hW : Written (calls ++ [c]) k = Written calls k := by
      funext p
      simp [written_snoc, hk]
    rw [hW]
    exact widgetInv_mono (h.widget k w' hw')

theorem typesInv_spawnAll {assets : List WidgetAsset} :
    ∀ (calls : List Call) {types : LanternTypes},
    spawnAll (createTypes assets) calls = .ok types → TypesInv types calls := by
  intro calls
  induction calls using List.reverseRecOn with
  | nil =>
    intro types h
    cases h
    exact typesInv_createTypes assets
  | append_singleton calls c ih =>
    intro types h
    rw [spawnAll, List.foldlM_append] at h
    obtain ⟨ts, hts, hc⟩ := bind_ok.mp h
    have hc' : (do return (← justSpawnLantern ts c.texture c.text c.choice).1) =
        (.ok types : Except Fault LanternTypes) := by
      simpa using hc
    obtain ⟨⟨types', lantern⟩, hj, he⟩ := bind_ok.mp hc'
    cases he
    exact typesInv_step (ih hts) hj

/-- **Freshness.** The last lantern shows nothing supplied by an earlier call exactly if its own
call has an image or a text, or the page it is drawn on was never laid out for its type. -/
theorem fresh_iff (assets : List WidgetAsset) (earlier : List Call) (last : Call)
    (types types' : LanternTypes) (lantern : Lantern)
    (he : spawnAll (createTypes assets) earlier = .ok types)
    (hl : justSpawnLantern types last.texture last.text last.choice = .ok (types', lantern)) :
    (∀ call < earlier.length, ¬ Shows lantern.letter call) ↔
      (last.texture ≠ none ∨ last.text ≠ []) ∨
        ∀ c ∈ earlier, c.choice.typeIndex = last.choice.typeIndex →
          layoutPage c.texture c.text ≠ some last.choice.page := by
  have hinv := typesInv_spawnAll earlier he
  obtain ⟨w, hw, -, rfl⟩ := justSpawnLantern_ok hl
  have hwi := hinv.widget _ w hw
  by_cases hne : last.texture ≠ none ∨ last.text ≠ []
  · refine ⟨fun _ => Or.inl hne, fun _ call hlt hs => ?_⟩
    have hcall := initWidget_fresh hne hs
    rw [hinv.calls_eq] at hcall
    omega
  · -- nothing to lay out: the page drawn by chance is shown as it is
    have hboth : last.texture = none ∧ last.text = [] := by
      simpa [not_or] using hne
    have hr : (w.initWidget types.calls last.choice.page last.texture last.text).rendered =
        w.page last.choice.page := by
      rcases initWidget_cases w types.calls last.choice.page last.texture last.text with
        ⟨-, -, h⟩ | ⟨h, -⟩ | ⟨h, -⟩
      · rw [h]; rfl
      · simp [layoutPage, hboth] at h
      · simp [layoutPage, hboth] at h
    have hiff := hwi.shows_iff last.choice.page
    simp only [hr, hne, false_or]
    constructor
    · intro hfresh c hc hk hp
      obtain ⟨call, hs⟩ := hiff.mpr ⟨c, hc, hk, hp⟩
      exact hfresh call (hwi.lt _ call hs) hs
    · intro hnone call _ hs
      obtain ⟨c, hc, hk, hp⟩ := hiff.mp ⟨call, hs⟩
      exact hnone c hc hk hp

/-- A widget created empty. -/
def blankAsset : WidgetAsset := ⟨none, fun _ => [], firstPage⟩

/-- A call for type 0, drawn on page 0 if there is nothing to lay out. -/
def textCall (text : FString) : Call := ⟨none, text, firstChoice⟩

theorem fresh_iff_two_letters : ∃ types types' lantern,
    spawnAll (createTypes [blankAsset]) [textCall (TEXT "A")] = .ok types ∧
      justSpawnLantern types none (TEXT "B") firstChoice = .ok (types', lantern) ∧
      ∀ call < 1, ¬ Shows lantern.letter call :=
  ⟨_, _, _, rfl, rfl, (fresh_iff [blankAsset] [textCall (TEXT "A")] (textCall (TEXT "B"))
    _ _ _ rfl rfl).mpr (Or.inl (Or.inr (by decide)))⟩

/-- **Not every lantern is fresh**: after the letter "A", a message with neither text nor image
shows "A" again. -/
theorem not_always_fresh : ¬ ∀ (assets : List WidgetAsset) (earlier : List Call) (last : Call)
    (types types' : LanternTypes) (lantern : Lantern),
    spawnAll (createTypes assets) earlier = .ok types →
      justSpawnLantern types last.texture last.text last.choice = .ok (types', lantern) →
      ∀ call < earlier.length, ¬ Shows lantern.letter call := by
  intro h
  refine h [blankAsset] [textCall (TEXT "A")] (textCall []) _ _ _ rfl rfl 0 (by decide) ?_
  exact Or.inr ⟨⟨TEXT "A", some 0⟩, List.mem_cons_self, by decide, rfl⟩

end LanternProject.Widget.Freshness
