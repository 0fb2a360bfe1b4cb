import LanternProject.Engine.Basic
import LanternProject.Engine.Str

/-! # The letter widget

`ULanternWidget` has two pages: page 0 holds an image and the text boxes 1 and 2, page 1 holds the
text boxes 3 to 6. One widget per lantern type is laid out anew (`initWidget`) and rendered
(`rendered`) for every lantern of that type (`justSpawnLantern`).

Every text box and the image remember in `setBy` which call laid them out last, `none` for the
content the widget was created with. Nothing in the program reads `setBy`; it is what "supplied by
an earlier call" means. -/

namespace LanternProject.Widget.LanternWidget

open LanternProject.Engine.Basic LanternProject.Engine.Str

/-- A text box. -/
structure UTextBlock where
  text : FString
  setBy : Option ℕ
deriving DecidableEq

/-- The image of page 0. -/
structure UImage where
  brush : Option UTexture2D
  setBy : Option ℕ
deriving DecidableEq

/-- The widget. -/
structure ULanternWidget where
  imgImage : UImage
  tbText1 : UTextBlock
  tbText2 : UTextBlock
  tbText3 : UTextBlock
  tbText4 : UTextBlock
  tbText5 : UTextBlock
  tbText6 : UTextBlock
  activeWidgetIndex : Fin 2
deriving DecidableEq

/-- The page of the image, and the page of text only. -/
abbrev firstPage : Fin 2 := 0
abbrev secondPage : Fin 2 := 1

/-- The content a widget is created with. -/
structure WidgetAsset where
  image : Option UTexture2D
  text : Fin 6 → FString
  page : Fin 2

/-- `CreateWidget`. -/
def createWidget (a : WidgetAsset) : ULanternWidget where
  imgImage := ⟨a.image, none⟩
  tbText1 := ⟨a.text 0, none⟩
  tbText2 := ⟨a.text 1, none⟩
  tbText3 := ⟨a.text 2, none⟩
  tbText4 := ⟨a.text 3, none⟩
  tbText5 := ⟨a.text 4, none⟩
  tbText6 := ⟨a.text 5, none⟩
  activeWidgetIndex := a.page

/-- `SetText` by the given call. -/
def UTextBlock.setText (_ : UTextBlock) (call : ℕ) (text : FString) : UTextBlock := ⟨text, some call⟩

/-- `SetBrushFromTexture` by the given call; no texture clears the image. -/
def UImage.setBrushFromTexture (_ : UImage) (call : ℕ) (texture : Option UTexture2D) : UImage :=
  ⟨texture, some call⟩

/-- `Randomize`; `draw` is what `RandRange(0, 1)` gives. -/
def ULanternWidget.randomize (w : ULanternWidget) (type : ℤ) (draw : Fin 2) : ULanternWidget :=
  let type := if type = -1 then (draw : ℤ) else type
  if type = 0 then { w with activeWidgetIndex := 0 }
  else if type = 1 then { w with activeWidgetIndex := 1 }
  else w

/-- `VerticalTextSet`: eight characters a box. The last box is filled on a test of the third. -/
def verticalTextSet (call : ℕ) (text : FString) (textBox1 : UTextBlock)
    (textBox2 textBox3 textBox4 : Option UTextBlock) :
    UTextBlock × Option UTextBlock × Option UTextBlock × Option UTextBlock :=
  (textBox1.setText call (left text 8),
    textBox2.map fun b => b.setText call (if text.length > 8 then mid text 8 8 else []),
    textBox3.map fun b => b.setText call (if text.length > 16 then mid text 16 8 else []),
    textBox4.map fun b => b.setText call
      (if text.length > 24 ∧ textBox3.isSome then mid text 24 8 else []))

/-- `InitWidget`. The truncation to 32 characters at its end changes a local variable only. -/
def ULanternWidget.initWidget (w : ULanternWidget) (call : ℕ) (draw : Fin 2)
    (texture : Option UTexture2D) (text : FString) : ULanternWidget :=
  if texture = none ∧ text = [] then w.randomize (-1) draw
  else
    let newText := replace text (TEXT "\\n") (TEXT "\n")
    if newText.length > 16 ∧ newText.length < 32 then
      -- text only, up to 32 characters
      let b := verticalTextSet call newText w.tbText3 (some w.tbText4) (some w.tbText5)
        (some w.tbText6)
      { w with
        activeWidgetIndex := 1
        tbText3 := b.1
        tbText4 := b.2.1.getD w.tbText4
        tbText5 := b.2.2.1.getD w.tbText5
        tbText6 := b.2.2.2.getD w.tbText6 }
    else if text = [] ∧ texture ≠ none then
      -- image only
      { w with
        activeWidgetIndex := 0
        imgImage := w.imgImage.setBrushFromTexture call texture
        tbText1 := w.tbText1.setText call []
        tbText2 := w.tbText2.setText call [] }
    else
      -- image and text, up to 16 characters
      let b := verticalTextSet call newText w.tbText1 (some w.tbText2) none none
      { w with
        activeWidgetIndex := 0
        imgImage := w.imgImage.setBrushFromTexture call texture
        tbText1 := b.1
        tbText2 := b.2.1.getD w.tbText2
        tbText3 := w.tbText3.setText call []
        tbText4 := w.tbText4.setText call [] }

/-- What a page of a widget shows. -/
structure Letter where
  image : Option UImage
  texts : List UTextBlock
deriving DecidableEq

/-- The content of a page. -/
def ULanternWidget.page (w : ULanternWidget) (p : Fin 2) : Letter :=
  if p = 0 then ⟨some w.imgImage, [w.tbText1, w.tbText2]⟩
  else ⟨none, [w.tbText3, w.tbText4, w.tbText5, w.tbText6]⟩

/-- What `TextureFromWidget` draws. -/
def ULanternWidget.rendered (w : ULanternWidget) : Letter := w.page w.activeWidgetIndex

/-! ### Spawning a lantern -/

/-- The widgets of `LanternTypeArray`, and how many lanterns they were laid out for. -/
structure LanternTypes where
  widgets : List ULanternWidget
  calls : ℕ

/-- The random choices of one `JustSpawnLantern`. -/
structure SpawnChoice where
  typeIndex : ℕ
  variationIndex : ℕ
  page : Fin 2
deriving DecidableEq, Repr

/-- The first type and variation, and page 0. -/
def firstChoice : SpawnChoice := ⟨0, 0, firstPage⟩

/-- The part of a spawned `ALanternActor` that comes from its letter. -/
structure Lantern where
  typeIndex : ℕ
  variationIndex : ℕ
  letter : Letter
deriving DecidableEq

/-- The types as `BeginPlay` creates them. -/
def createTypes (assets : List WidgetAsset) : LanternTypes := ⟨assets.map createWidget, 0⟩

/-- `JustSpawnLantern`: lay out the widget of the chosen type and draw it on a new lantern. -/
def justSpawnLantern (types : LanternTypes) (image : Option UTexture2D) (text : FString)
    (choice : SpawnChoice) : Except Fault (LanternTypes × Lantern) := do
  let widget ← index .lanternTypeArray types.widgets choice.typeIndex
  let widget := widget.initWidget types.calls choice.page image text
  .ok (⟨types.widgets.set choice.typeIndex widget, types.calls + 1⟩,
    ⟨choice.typeIndex, choice.variationIndex, widget.rendered⟩)

theorem justSpawnLantern_ok {types types' : LanternTypes} {image : Option UTexture2D}
    {text : FString} {choice : SpawnChoice} {lantern : Lantern}
    (h : justSpawnLantern types image text choice = .ok (types', lantern)) :
    ∃ w, types.widgets[choice.typeIndex]? = some w ∧
      types' = ⟨types.widgets.set choice.typeIndex
        (w.initWidget types.calls choice.page image text), types.calls + 1⟩ ∧
      lantern = ⟨choice.typeIndex, choice.variationIndex,
        (w.initWidget types.calls choice.page image text).rendered⟩ := by
  obtain ⟨w, hw, he⟩ := bind_ok.mp h
  simp only [Except.ok.injEq, Prod.mk.injEq] at he
  exact ⟨w, index_ok.mp hw, he.1.symm, he.2.symm⟩

theorem justSpawnLantern_total {types : LanternTypes} {choice : SpawnChoice}
    (h : choice.typeIndex < types.widgets.length) (image : Option UTexture2D) (text : FString) :
    ∃ types' lantern, justSpawnLantern types image text choice = .ok (types', lantern) ∧
      types'.widgets.length = types.widgets.length :=
  ⟨_, _, bind_ok.mpr ⟨_, index_ok.mpr (List.getElem?_eq_getElem h), rfl⟩, List.length_set⟩

/-- `JustSpawnLantern` indexes no array but that of the lantern types. -/
theorem justSpawnLantern_error {types : LanternTypes} {image : Option UTexture2D} {text : FString}
    {choice : SpawnChoice} {e : Fault} (h : justSpawnLantern types image text choice = .error e) :
    e = .indexOutOfRange .lanternTypeArray := by
  rcases bind_error.mp h with h | ⟨w, -, h⟩
  · exact (index_error.mp h).2
  · cases h

/-- `SpawnAndDestroyLantern`, called once by `BeginPlay`. -/
def spawnAndDestroyLantern (types : LanternTypes) (choice : SpawnChoice) :
    Except Fault LanternTypes := do
  let (types, _) ← justSpawnLantern types none [] choice
  .ok types

end LanternProject.Widget.LanternWidget
