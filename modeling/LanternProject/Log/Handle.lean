import LanternProject.Log.GameInstance

/-! # The log file handle

In whatever order the functions of the log are called, and whichever openings fail, a pointer that
is not null is the open handle of the log file in use, so that no call touches a deleted handle
(`Sound`). The one exception is `Shutdown`: it deletes the handle and leaves the pointer, so that
the pointer dangles unless it was null when it was tested (`handle_sound_iff`). -/

namespace LanternProject.Log.Handle

open LanternProject.Engine.Str LanternProject.Lib.Runs LanternProject.Log.GameInstance

/-- The calls; `opened` and `next` tell whether the openings of `OpenLogFile` and of
`MoveToNextFile` succeed. -/
inductive Call where
  | init (now : FString) (opened next : Bool)
  | openLogFile (now : FString) (opened next : Bool)
  | logToFile (now inString : FString) (next : Bool)
  | moveToNextFile (next : Bool)
  | save (now : FString) (next : Bool)
  | shutdown (now : FString) (next : Bool)

def call (w : World) : Call → Except HandleFault World
  | .init now opened next => init w now opened next
  | .openLogFile now opened next => openLogFile w now opened next
  | .logToFile now inString next => logToFile w now inString next
  | .moveToNextFile next => moveToNextFile w next
  | .save now next => save w now next
  | .shutdown now next => shutdown w now next

/-- The calls that do not touch a deleted handle. -/
def Next (w : World) (c : Call) (w' : World) : Prop := call w c = .ok w'

/-- The pointer is null or the open handle of the log file in use, and no call touches a deleted
handle. -/
structure Sound (w : World) : Prop where
  handle : HandleOk w
  call : ∀ c f, call w c ≠ .error f

/-- The line `Save` writes. -/
def saveLine (w : World) (now : FString) : FString :=
  newLine now (if w.saveGame.isSome then
    LOGTEXT "ULanternGameInstance::Save" 212 (TEXT "Data is saved")
  else LOGTEXT "ULanternGameInstance::Save" 216 (TEXT "SaveData is invalid"))

/-- If the call is `Shutdown`, the pointer is null when it is tested: it was, or the line of `Save`
fills the file and the next one cannot be opened. -/
def NullAtShutdown (w : World) : Call → Prop
  | .shutdown now next => w.fileHandle = none ∨
      (logFileLimit ≤ fileSize w w.logFileIndex + (saveLine w now).length ∧ next = false)
  | _ => True

variable {w : World}

/-! ### The functions -/

theorem logToFile_ok (h : HandleOk w) (now inString : FString) (opened : Bool) :
    ∃ w', logToFile w now inString opened = .ok w' ∧ HandleOk w' ∧
      (w'.fileHandle = none ↔ w.fileHandle = none ∨
        (logFileLimit ≤ fileSize w w.logFileIndex + (newLine now inString).length ∧
          opened = false)) := by
  cases hf : w.fileHandle with
  | none =>
    refine ⟨w, ?_, h, by simp [hf]⟩
    simp only [logToFile, hf]
  | some handle =>
    refine ⟨_, logToFile_eq now inString opened hf (h handle hf), ?_, ?_⟩
    · unfold logged
      split_ifs
      · exact handleOk_turned
      · exact handleOk_pushed h
    · unfold logged
      split_ifs with hfull
      · cases opened <;> simp [turned, hfull]
      · simp [pushed, hf, hfull]

theorem moveToNextFile_ok (h : HandleOk w) (opened : Bool) :
    ∃ w', moveToNextFile w opened = .ok w' ∧ HandleOk w' := by
  cases hf : w.fileHandle with
  | none =>
    refine ⟨w, ?_, h⟩
    simp only [moveToNextFile, hf]
  | some handle => exact ⟨_, moveToNextFile_eq opened hf (h handle hf), handleOk_turned⟩

/-- Whatever the pointer was, it is replaced. -/
theorem openLogFile_ok (w : World) (now : FString) (opened next : Bool) :
    ∃ w', openLogFile w now opened next = .ok w' ∧ HandleOk w' := by
  cases opened with
  | false => exact ⟨{ w with fileHandle := none }, rfl, fun handle hf => (by cases hf)⟩
  | true =>
    have hok : HandleOk { (openWrite w w.logFileIndex true).1 with
        fileHandle := some w.handles.length } := by
      intro handle hf
      cases hf
      simp [openWrite]
    obtain ⟨w', hw', hok', -⟩ := logToFile_ok hok now
      (LOGTEXT "ULanternGameInstance::OpenLogFile" 143 (TEXT "Success to open log file")) next
    exact ⟨w', hw', hok'⟩

theorem save_ok (h : HandleOk w) (now : FString) (next : Bool) :
    ∃ w', save w now next = .ok w' ∧ HandleOk w' ∧
      (w'.fileHandle = none ↔ w.fileHandle = none ∨
        (logFileLimit ≤ fileSize w w.logFileIndex + (saveLine w now).length ∧ next = false)) := by
  unfold save saveLine
  cases hs : w.saveGame with
  | none => exact logToFile_ok h now _ next
  | some index =>
    exact logToFile_ok
      (w := { w with saveGame := some w.logFileIndex, slot := some w.logFileIndex })
      h now _ next

/-- **`Shutdown`** leaves a pointer that is null or open exactly if it is null after `Save`. -/
theorem shutdown_ok (h : HandleOk w) (now : FString) (next : Bool) :
    ∃ w', shutdown w now next = .ok w' ∧ (HandleOk w' ↔ NullAtShutdown w (.shutdown now next)) := by
  obtain ⟨u, hu, hok, hnull⟩ := save_ok h now next
  cases hf : u.fileHandle with
  | none =>
    refine ⟨u, ?_, fun _ => hnull.mp hf, fun _ => hok⟩
    simp [shutdown, hu, bind, Except.bind, hf]
  | some handle =>
    have ho := hok handle hf
    refine ⟨{ u with handles := u.handles.set handle none }, ?_, fun hok' => ?_, fun hn => ?_⟩
    · simp [shutdown, hu, bind, Except.bind, hf, delete, ho]
    · have hdel := hok' handle hf
      have hlt := (List.getElem?_eq_some_iff.mp ho).1
      simp [hlt] at hdel
    · rw [hnull.mpr hn] at hf
      cases hf

/-- **Every call** finds the handle in order, and leaves it so unless it is a `Shutdown` that
leaves a dangling pointer. -/
theorem call_ok (h : HandleOk w) (c : Call) :
    ∃ w', call w c = .ok w' ∧ (HandleOk w' ↔ NullAtShutdown w c) := by
  cases c with
  | init now opened next =>
    obtain ⟨w', hw', hok⟩ := openLogFile_ok
      { w with saveGame := some (w.slot.getD 0), logFileIndex := w.slot.getD 0 } now opened next
    exact ⟨w', hw', fun _ => trivial, fun _ => hok⟩
  | openLogFile now opened next =>
    obtain ⟨w', hw', hok⟩ := openLogFile_ok w now opened next
    exact ⟨w', hw', fun _ => trivial, fun _ => hok⟩
  | logToFile now inString next =>
    obtain ⟨w', hw', hok, -⟩ := logToFile_ok h now inString next
    exact ⟨w', hw', fun _ => trivial, fun _ => hok⟩
  | moveToNextFile next =>
    obtain ⟨w', hw', hok⟩ := moveToNextFile_ok h next
    exact ⟨w', hw', fun _ => trivial, fun _ => hok⟩
  | save now next =>
    obtain ⟨w', hw', hok, -⟩ := save_ok h now next
    exact ⟨w', hw', fun _ => trivial, fun _ => hok⟩
  | shutdown now next => exact shutdown_ok h now next

theorem sound_of_handleOk (h : HandleOk w) : Sound w := by
  refine ⟨h, fun c f hf => ?_⟩
  obtain ⟨w', hw', -⟩ := call_ok h c
  rw [hf] at hw'
  cases hw'

theorem sound_next {w' : World} {c : Call} (h : Sound w) (hn : Next w c w') :
    Sound w' ↔ NullAtShutdown w c := by
  obtain ⟨u, hu, hiff⟩ := call_ok h.handle c
  cases hn.symm.trans hu
  exact ⟨fun hs => hiff.mp hs.handle, fun hc => sound_of_handleOk (hiff.mpr hc)⟩

/-- **The handle is sound exactly as long as every `Shutdown` finds the pointer null.** -/
theorem handle_sound_iff (files : ℕ → Option (List FString)) (slot : Option ℕ)
    (tr : List (World × Call)) (w : World) (hr : Run Next (created files slot) tr w) :
    Always Sound tr w ↔ Along NullAtShutdown tr := by
  refine hr.always_iff_along (I := fun _ => True) (A := fun _ _ => True) trivial
    (sound_of_handleOk fun handle hf => (by cases hf)) (fun _ _ _ _ _ _ _ _ => trivial)
    (fun _ _ _ _ h _ hs => sound_next h hs) (fun _ _ => trivial)

/-- The calls, one after the other. -/
def play (w : World) (cs : List Call) : Option World :=
  cs.foldlM (fun w c => (call w c).toOption) w

theorem run_of_play {w w' : World} {cs : List Call} (h : play w cs = some w') :
    ∃ tr, Run Next w tr w' ∧ tr.map Prod.snd = cs := by
  refine run_of_foldlM (fun u c u' hu => ?_) cs h
  show call u c = .ok u'
  cases hc : call u c with
  | error f => simp [hc, Except.toOption] at hu
  | ok v =>
    simp only [hc, Except.toOption, Option.some.injEq] at hu
    rw [hu]

/-- A session without a log file before it. -/
def shutdownCalls : List Call := [.init [] true true, .shutdown [] true]

theorem handle_sound_iff_shutdownCalls : ∃ tr w, Run Next (created (fun _ => none) none) tr w ∧
    tr.map Prod.snd = shutdownCalls ∧ (Always Sound tr w ↔ Along NullAtShutdown tr) := by
  obtain ⟨w, hp⟩ : ∃ w, play (created (fun _ => none) none) shutdownCalls = some w :=
    Option.isSome_iff_exists.mp (by decide +kernel)
  obtain ⟨tr, hr, htr⟩ := run_of_play hp
  exact ⟨tr, w, hr, htr, handle_sound_iff _ none tr w hr⟩

/-- **The handle can be written after it is deleted**: a line is logged after `Shutdown`. -/
theorem not_always_sound : ¬ ∀ (files : ℕ → Option (List FString)) (slot : Option ℕ)
    (tr : List (World × Call)) (w : World), Run Next (created files slot) tr w → Sound w := by
  intro h
  have hp : ((play (created (fun _ => none) none) shutdownCalls).map fun w =>
      match call w (.logToFile [] (TEXT "Failed to connect") true) with
      | .error f => some f
      | .ok _ => none) = some (some .useAfterDelete) := by decide +kernel
  obtain ⟨w, hw, hv⟩ := Option.map_eq_some_iff.mp hp
  obtain ⟨tr, hr, -⟩ := run_of_play hw
  refine (h _ none tr w hr).call (.logToFile [] (TEXT "Failed to connect") true) .useAfterDelete ?_
  split at hv
  · rename_i f hf
    cases f
    exact hf
  · cases hv

end LanternProject.Log.Handle
