import LanternProject.Engine.Basic
import LanternProject.Engine.Str
import LanternProject.Lib.Runs

/-! # The log files

`ULanternGameInstance` writes its log through one file handle. When a file reaches its limit the
next of nine is emptied and opened (`MoveToNextFile`); `Save` keeps the index of the file in use in
the save slot, `Init` takes it from there. `FileHandle` is a raw pointer: here the number of a
handle, which may have been deleted meanwhile. Every opening may fail; the other file operations
succeed.

If the handle is the open one (`HandleOk`), what the functions do has a closed form (`pushed`,
`turned`, `logToFile_eq`). -/

namespace LanternProject.Log.GameInstance

open LanternProject.Engine.Basic LanternProject.Engine.Str LanternProject.Lib.Runs

/-- A deleted handle was written, measured or deleted. -/
inductive HandleFault where
  | useAfterDelete
deriving DecidableEq, Repr

/-- The members of the game instance, the handles it opened with the file each is open on (`none`
once deleted), the log files by their lines, and the index in the save slot; history: the lines
written. -/
structure World where
  fileHandle : Option ℕ
  logFileIndex : ℕ
  saveGame : Option ℕ
  handles : List (Option ℕ)
  files : ℕ → Option (List FString)
  slot : Option ℕ
  written : List FString

/-- A game instance before `Init`. -/
def created (files : ℕ → Option (List FString)) (slot : Option ℕ) : World :=
  ⟨none, 0, none, [], files, slot, []⟩

/-- The lines of a log file. -/
def linesOf (w : World) (i : ℕ) : List FString := (w.files i).getD []

/-- The size of a log file. -/
def fileSize (w : World) (i : ℕ) : ℕ := ((linesOf w i).map List.length).sum

/-- The size at which a log file is full. -/
def logFileLimit : ℕ := 100000000

/-! ### File handles -/

/-- `Write`. -/
def write (w : World) (handle : ℕ) (line : FString) : Except HandleFault World :=
  match w.handles[handle]? with
  | some (some i) => .ok { w with
      files := Function.update w.files i (some (linesOf w i ++ [line]))
      written := w.written ++ [line] }
  | _ => .error .useAfterDelete

/-- `Size`. -/
def size (w : World) (handle : ℕ) : Except HandleFault ℕ :=
  match w.handles[handle]? with
  | some (some i) => .ok (fileSize w i)
  | _ => .error .useAfterDelete

/-- `delete`. -/
def delete (w : World) (handle : ℕ) : Except HandleFault World :=
  match w.handles[handle]? with
  | some (some _) => .ok { w with handles := w.handles.set handle none }
  | _ => .error .useAfterDelete

/-- `OpenWrite` for appending to `LogFile<i>.log`, which is created if there is none. -/
def openWrite (w : World) (i : ℕ) (opened : Bool) : World × Option ℕ :=
  if opened then
    ({ w with
      handles := w.handles ++ [some i], files := Function.update w.files i (some (linesOf w i)) },
      some w.handles.length)
  else (w, none)

/-- `DeleteFile`, if the file exists. -/
def deleteFile (w : World) (i : ℕ) : World :=
  if (w.files i).isSome then { w with files := Function.update w.files i none } else w

theorem deleteFile_eq (w : World) (i : ℕ) :
    deleteFile w i = { w with files := Function.update w.files i none } := by
  unfold deleteFile
  split_ifs with h
  · rfl
  · rw [Option.not_isSome_iff_eq_none] at h
    rw [← h, Function.update_eq_self]

/-! ### The functions -/

/-- `MoveToNextFile`; `opened` tells whether `OpenWrite` succeeds. -/
def moveToNextFile (w : World) (opened : Bool) : Except HandleFault World :=
  match w.fileHandle with
  | none => .ok w
  | some handle => do
    let w ← delete w handle
    let w := { w with logFileIndex := (w.logFileIndex + 1) % 9 }
    let w := deleteFile w w.logFileIndex
    let (w, fileHandle) := openWrite w w.logFileIndex opened
    .ok { w with fileHandle := fileHandle }

/-- The line `LogToFile` writes. -/
def newLine (now inString : FString) : FString :=
  TEXT "[" ++ now ++ TEXT "] " ++ inString ++ TEXT "\n"

/-- `LogToFile`. -/
def logToFile (w : World) (now inString : FString) (opened : Bool) : Except HandleFault World :=
  match w.fileHandle with
  | none => .ok w
  | some handle => do
    let w ← write w handle (newLine now inString)
    let size ← size w handle
    if size ≥ logFileLimit then moveToNextFile w opened else .ok w

/-- `OpenLogFile`. -/
def openLogFile (w : World) (now : FString) (opened next : Bool) : Except HandleFault World :=
  let (w, fileHandle) := openWrite w w.logFileIndex opened
  let w := { w with fileHandle := fileHandle }
  if fileHandle.isSome then
    logToFile w now (LOGTEXT "ULanternGameInstance::OpenLogFile" 143
      (TEXT "Success to open log file")) next
  else .ok w

/-- `Init`: a slot that was never saved gives a new save game with index 0. -/
def init (w : World) (now : FString) (opened next : Bool) : Except HandleFault World :=
  let saveGame := w.slot.getD 0
  openLogFile { w with saveGame := some saveGame, logFileIndex := saveGame } now opened next

/-- `Save`. -/
def save (w : World) (now : FString) (next : Bool) : Except HandleFault World :=
  match w.saveGame with
  | some _ =>
    logToFile { w with saveGame := some w.logFileIndex, slot := some w.logFileIndex } now
      (LOGTEXT "ULanternGameInstance::Save" 212 (TEXT "Data is saved")) next
  | none =>
    logToFile w now (LOGTEXT "ULanternGameInstance::Save" 216 (TEXT "SaveData is invalid")) next

/-- `Shutdown`: the handle is deleted, the pointer stays. -/
def shutdown (w : World) (now : FString) (next : Bool) : Except HandleFault World := do
  let w ← save w now next
  match w.fileHandle with
  | none => .ok w
  | some handle => delete w handle

/-! ### What they do with the open handle -/

/-- A pointer that is not null is the open handle of the log file in use. -/
def HandleOk (w : World) : Prop :=
  ∀ handle, w.fileHandle = some handle → w.handles[handle]? = some (some w.logFileIndex)

/-- A line added to the file in use. -/
def pushed (w : World) (line : FString) : World :=
  { w with
    files := Function.update w.files w.logFileIndex (some (linesOf w w.logFileIndex ++ [line]))
    written := w.written ++ [line] }

/-- The next file taken into use. -/
def turned (w : World) (handle : ℕ) (opened : Bool) : World :=
  { w with
    fileHandle := if opened then some w.handles.length else none
    logFileIndex := (w.logFileIndex + 1) % 9
    handles := w.handles.set handle none ++ if opened then [some ((w.logFileIndex + 1) % 9)] else []
    files := Function.update w.files ((w.logFileIndex + 1) % 9) (if opened then some [] else none) }

theorem moveToNextFile_eq {w : World} {handle : ℕ} (opened : Bool) (hf : w.fileHandle = some handle)
    (ho : w.handles[handle]? = some (some w.logFileIndex)) :
    moveToNextFile w opened = .ok (turned w handle opened) := by
  simp only [moveToNextFile, hf, delete, ho, bind, Except.bind, deleteFile_eq]
  cases opened with
  | false => simp [openWrite, turned]
  | true => simp [openWrite, turned, linesOf]

/-- A line added, and the next file taken into use if this one is full. -/
def logged (w : World) (handle : ℕ) (line : FString) (opened : Bool) : World :=
  if logFileLimit ≤ fileSize w w.logFileIndex + line.length then turned (pushed w line) handle opened
  else pushed w line

/-- **What `LogToFile` does.** -/
theorem logToFile_eq {w : World} {handle : ℕ} (now inString : FString) (opened : Bool)
    (hf : w.fileHandle = some handle) (ho : w.handles[handle]? = some (some w.logFileIndex)) :
    logToFile w now inString opened = .ok (logged w handle (newLine now inString) opened) := by
  have hsize : fileSize (pushed w (newLine now inString)) w.logFileIndex =
      fileSize w w.logFileIndex + (newLine now inString).length := by
    simp [fileSize, linesOf, pushed]
  have hw : write w handle (newLine now inString) = .ok (pushed w (newLine now inString)) := by
    simp only [write, ho]
    rfl
  have hs : size (pushed w (newLine now inString)) handle =
      .ok (fileSize w w.logFileIndex + (newLine now inString).length) := by
    have ho' : (pushed w (newLine now inString)).handles[handle]? = some (some w.logFileIndex) := ho
    simp only [size, ho', hsize]
  simp only [logToFile, hf, hw, hs, bind, Except.bind, ge_iff_le, logged]
  split_ifs
  · exact moveToNextFile_eq opened hf ho
  · rfl

theorem handleOk_pushed {w : World} {line : FString} (h : HandleOk w) :
    HandleOk (pushed w line) := h

theorem handleOk_turned {w : World} {handle : ℕ} {opened : Bool} :
    HandleOk (turned w handle opened) := by
  intro k hk
  cases opened with
  | false => cases hk
  | true =>
    cases hk
    simp [turned]

end LanternProject.Log.GameInstance
