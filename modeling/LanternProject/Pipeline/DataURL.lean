import LanternProject.Pipeline.System

/-! # Images as data URLs

An image travels as a string `data:image/` with its format and a base64 text. `CallbackHTTP` puts the
two together; `OnResponseReceived` cuts at the first comma, what is before it at the first slash, and
what is behind that at the first semicolon. The base64 text may hold all three characters, but it comes
behind the comma. So the two agree for every format that holds none (`dataURL_agrees`), as all formats
do that are understood (`plainFormat_of_accepted`). -/

namespace LanternProject.Pipeline.DataURL

open LanternProject.Engine.Str LanternProject.Engine.Json LanternProject.Widget.LanternWidget
open LanternProject.Pipeline.State LanternProject.Pipeline.Spawn LanternProject.Pipeline.Request
open LanternProject.Pipeline.System

/-- None of the characters a data URL is cut at is in the format. -/
def PlainFormat (imageFormat : FString) : Prop := ∀ c ∈ imageFormat, c ∉ TEXT ",/;"

instance (imageFormat : FString) : Decidable (PlainFormat imageFormat) :=
  List.decidableBAll (fun c => c ∉ TEXT ",/;") imageFormat

/-- The string of an image. -/
def dataB64Image (imageFormat base64 : FString) : FString :=
  TEXT "data:image/" ++ imageFormat ++ TEXT ";base64," ++ base64

/-! ### Cutting it -/

/-- Equality ignoring case keeps the characters that are no letters. -/
theorem mem_of_equalsIgnoreCase {a b : FString} (h : equalsIgnoreCase a b = true) {c : TCHAR}
    (hc : Caseless c) (hmem : c ∈ a) : c ∈ b := by
  have hlower : toLower c ∈ b.map toLower :=
    equalsIgnoreCase_iff.mp h ▸ List.mem_map_of_mem hmem
  obtain ⟨x, hx, hxc⟩ := List.mem_map.mp hlower
  exact ((hc.toLower_eq_iff x).mp hxc.symm) ▸ hx

/-- **The formats that are understood** are plain, in every spelling. -/
theorem plainFormat_of_accepted {imageFormat : FString} (h : imageFormatOf imageFormat ≠ none) :
    PlainFormat imageFormat := by
  have hcaseless : ∀ c ∈ TEXT ",/;", Caseless c := by
    have hall : ((TEXT ",/;").all fun c => decide (Caseless c)) = true := by decide
    simpa using hall
  have hplain : ∀ name, equalsIgnoreCase imageFormat name = true → PlainFormat name →
      PlainFormat imageFormat :=
    fun name he hname c hc hcut => hname c (mem_of_equalsIgnoreCase he (hcaseless c hcut) hc) hcut
  unfold imageFormatOf at h
  split_ifs at h with hjpeg hpng
  · rcases Bool.or_eq_true_iff.mp hjpeg with hj | hj
    · exact hplain _ hj (by decide)
    · exact hplain _ hj (by decide)
  · exact hplain _ hpng (by decide)
  · exact absurd rfl h

/-- **The cuts give back** the payload and the format. -/
theorem splitDataURL_dataB64Image {imageFormat : FString} (h : PlainFormat imageFormat)
    (base64 : FString) : splitDataURL (dataB64Image imageFormat base64) = (base64, imageFormat) := by
  have hout : ∀ c ∈ TEXT ",/;", c ∉ imageFormat := fun c hcut hc => h c hc hcut
  have hcomma : split (dataB64Image imageFormat base64) (TEXT ",") =
      some (TEXT "data:image/" ++ imageFormat ++ TEXT ";base64", base64) := by
    have hbefore : UInt16.ofNat ','.toNat ∉
        TEXT "data:image/" ++ imageFormat ++ TEXT ";base64" := by
      rw [List.mem_append, List.mem_append, not_or, not_or]
      exact ⟨⟨by decide, hout _ (by decide)⟩, by decide⟩
    have hstring : dataB64Image imageFormat base64 =
        TEXT "data:image/" ++ imageFormat ++ TEXT ";base64" ++ UInt16.ofNat ','.toNat :: base64 := by
      have htext : TEXT ";base64," = TEXT ";base64" ++ [UInt16.ofNat ','.toNat] := by decide
      rw [dataB64Image, htext, ← List.append_assoc, List.append_assoc _ _ base64]
      rfl
    rw [hstring]
    exact split_append (by decide) hbefore
  have hslash : split (TEXT "data:image/" ++ imageFormat ++ TEXT ";base64") (TEXT "/") =
      some (TEXT "data:image", imageFormat ++ TEXT ";base64") := by
    have hstring : TEXT "data:image/" ++ imageFormat ++ TEXT ";base64" =
        TEXT "data:image" ++ UInt16.ofNat '/'.toNat :: (imageFormat ++ TEXT ";base64") := by
      have htext : TEXT "data:image/" = TEXT "data:image" ++ [UInt16.ofNat '/'.toNat] := by decide
      rw [htext, List.append_assoc, List.append_assoc]
      rfl
    rw [hstring]
    exact split_append (by decide) (by decide)
  have hsemicolon : split (imageFormat ++ TEXT ";base64") (TEXT ";") =
      some (imageFormat, TEXT "base64") :=
    split_append (by decide) (hout _ (by decide))
  unfold splitDataURL
  simp only [hcomma, hslash, hsemicolon, Option.getD_some]

/-- **An image that is sent back** is the image of the payload in its format. -/
theorem resultImage_of_dataB64Image {env : Env} {result : FJsonObject}
    {imageFormat base64 : FString} (hplain : PlainFormat imageFormat)
    (h : getStringField result (TEXT "data_b64image") = dataB64Image imageFormat base64) :
    resultImage env result = decodedImage env base64 imageFormat := by
  unfold resultImage
  rw [h, splitDataURL_dataB64Image hplain]

/-- What `Capture` sends, in particular. -/
theorem splitDataURL_dataURL (env : Env) (target : AActor) : splitDataURL (dataURL env target) =
    (if env.textureTarget = false then []
      else env.base64Encode (env.compressImage (TEXT "jpg") ⟨target⟩), TEXT "jpg") :=
  splitDataURL_dataB64Image (by decide) _

/-! ### The two ends -/

/-- **The two ends agree**: what `CallbackHTTP` sends, `OnResponseReceived` would cut into the same
format and the same payload. -/
theorem dataURL_agrees (env : Env) (w w' : World) (base64 imageFormat : FString)
    (picture : AActor) (hformat : PlainFormat imageFormat ∨ imageFormatOf imageFormat ≠ none)
    (hurl : w.mqttManager.callbackURL ≠ [])
    (h : callbackHTTP env w base64 imageFormat picture = .ok w') :
    ∃ post, w'.callbacks = w.callbacks ++ [post] ∧
      splitDataURL (getStringField post.content (TEXT "data_b64image")) =
        (base64, imageFormat) := by
  have hplain : PlainFormat imageFormat := hformat.elim id plainFormat_of_accepted
  rw [callbackHTTP_ok h, if_neg hurl]
  exact ⟨_, rfl, splitDataURL_dataB64Image hplain base64⟩

/-- A message with a callback was parsed last. -/
def sampleAnswering : World :=
  { sampleWorld with mqttManager := ⟨[], false, TEXT "1", TEXT "A", [], TEXT "http://c"⟩ }

theorem dataURL_agrees_separators : ∃ w' post,
    callbackHTTP sampleEnv sampleAnswering (TEXT "a/b;c,d") (TEXT "jpg") (.lantern 0) = .ok w' ∧
    w'.callbacks = [post] ∧
    splitDataURL (getStringField post.content (TEXT "data_b64image")) =
      (TEXT "a/b;c,d", TEXT "jpg") := by
  obtain ⟨w', h⟩ : ∃ w', callbackHTTP sampleEnv sampleAnswering (TEXT "a/b;c,d") (TEXT "jpg")
      (.lantern 0) = .ok w' := ⟨_, rfl⟩
  obtain ⟨post, hcallbacks, hsplit⟩ :=
    dataURL_agrees _ _ _ _ _ _ (Or.inr (by decide)) (by decide) h
  exact ⟨w', post, h, hcallbacks, hsplit⟩

end LanternProject.Pipeline.DataURL
