import LanternProject.Lib.Ring
import LanternProject.Log.GameInstance

/-! # What the log files retain

Over a deployment, sessions follow one another: each takes the index of the log file from the save
slot, logs and saves, and ends with `Shutdown` or abruptly. The nine files are a ring of segments:
read from the one after the file in use round to it, they hold the newest lines (`Retains`). A
session keeps that whatever it does; but the next one starts from the index saved last, so it only
stays so if the session did not end abruptly after a turn that was not saved (`Settled`,
`retention`). -/

namespace LanternProject.Log.Retention

open LanternProject.Engine.Str LanternProject.Lib.Runs LanternProject.Lib.Ring
open LanternProject.Log.GameInstance

/-- The log files and the save slot, and the session that is running, if any. -/
structure Deployment where
  world : World
  running : Bool

/-- The events of a deployment. -/
inductive Event where
  | start (now : FString)
  | logToFile (now inString : FString)
  | save (now : FString)
  | shutdown (now : FString)
  | crash

/-- A new process: nothing is left of the members of the game instance. -/
def restarted (w : World) : World :=
  { w with fileHandle := none, logFileIndex := 0, saveGame := none, handles := [] }

/-- The deployment after a function of the running session. -/
def after (running : Bool) (r : Except HandleFault World) : Option Deployment :=
  r.toOption.map fun w => ⟨w, running⟩

/-- One event; every opening succeeds. -/
def step (d : Deployment) : Event → Option Deployment
  | .start now => if d.running then none else after true (init (restarted d.world) now true true)
  | .logToFile now inString =>
    if d.running then after true (logToFile d.world now inString true) else none
  | .save now => if d.running then after true (save d.world now true) else none
  | .shutdown now => if d.running then after false (shutdown d.world now true) else none
  | .crash => if d.running then some { d with running := false } else none

def Next (d : Deployment) (e : Event) (d' : Deployment) : Prop := step d e = some d'

/-- Before the first session there are no log files. -/
def fresh (slot : Option ℕ) : Deployment := ⟨created (fun _ => none) slot, false⟩

/-- The lines retained, from the file after the one with the given index round to it. -/
def retained (w : World) (index : ℕ) : List FString := entries 9 (linesOf w) index

/-- The log files hold the newest of all lines written, in order and without gaps. -/
def Retains (w : World) : Prop := retained w w.logFileIndex <:+ w.written

/-- The index saved is that of the file in use, or the file in use is still empty and the index
saved is the one before it. -/
def Settled (w : World) : Prop :=
  w.slot.getD 0 = w.logFileIndex ∨
    ((w.slot.getD 0 + 1) % 9 = w.logFileIndex ∧ linesOf w w.logFileIndex = [])

/-- A session that ends abruptly is settled. -/
def CrashSettled (d : Deployment) : Event → Prop
  | .crash => Settled d.world
  | _ => True

/-! ### The ring -/

variable {w : World}

theorem linesOf_pushed (w : World) (line : FString) : linesOf (pushed w line) =
    Function.update (linesOf w) w.logFileIndex (linesOf w w.logFileIndex ++ [line]) := by
  funext i
  by_cases hi : i = w.logFileIndex
  · subst hi
    simp [linesOf, pushed]
  · simp [linesOf, pushed, Function.update_of_ne hi]

theorem linesOf_turned (w : World) (handle : ℕ) : linesOf (turned w handle true) =
    Function.update (linesOf w) ((w.logFileIndex + 1) % 9) [] := by
  funext i
  by_cases hi : i = (w.logFileIndex + 1) % 9
  · subst hi
    simp [linesOf, turned]
  · simp [linesOf, turned, Function.update_of_ne hi]

theorem linesOf_openWrite (w : World) (i : ℕ) : linesOf (openWrite w i true).1 = linesOf w := by
  funext j
  by_cases hj : j = i
  · subst hj
    simp [linesOf, openWrite]
  · simp [linesOf, openWrite, Function.update_of_ne hj]

/-- **A line goes to the end of what is retained.** -/
theorem retains_pushed (hi : w.logFileIndex < 9) (h : Retains w) (line : FString) :
    Retains (pushed w line) := by
  show entries 9 (linesOf (pushed w line)) w.logFileIndex <:+ w.written ++ [line]
  rw [linesOf_pushed, entries_push hi]
  obtain ⟨t, ht⟩ := h
  refine ⟨t, ?_⟩
  rw [← List.append_assoc]
  exact congrArg (· ++ [line]) ht

/-- **A turn drops the oldest of it.** -/
theorem retains_turned (h : Retains w) (handle : ℕ) : Retains (turned w handle true) := by
  show entries 9 (linesOf (turned w handle true)) ((w.logFileIndex + 1) % 9) <:+ w.written
  rw [linesOf_turned]
  exact (entries_turn_suffix (by decide)).trans h

/-! ### Sessions -/

/-- A session: the handle is open, and the log files retain the newest lines. -/
structure Session (w : World) : Prop where
  handle : ∃ handle, w.fileHandle = some handle ∧ w.handles[handle]? = some (some w.logFileIndex)
  index_lt : w.logFileIndex < 9
  saveGame : w.saveGame.isSome
  retains : Retains w

/-- **`LogToFile`** keeps a session; the file in use stays, or the next one is used and empty. -/
theorem session_logToFile (h : Session w) (now inString : FString) :
    ∃ w', logToFile w now inString true = .ok w' ∧ Session w' ∧ w'.slot = w.slot ∧
      (w'.logFileIndex = w.logFileIndex ∨
        ((w.logFileIndex + 1) % 9 = w'.logFileIndex ∧ linesOf w' w'.logFileIndex = [])) := by
  obtain ⟨handle, hf, ho⟩ := h.handle
  refine ⟨_, logToFile_eq now inString true hf ho, ?_⟩
  have hp : Session (pushed w (newLine now inString)) :=
    ⟨⟨handle, hf, ho⟩, h.index_lt, h.saveGame, retains_pushed h.index_lt h.retains _⟩
  unfold logged
  split_ifs
  · refine ⟨⟨⟨w.handles.length, rfl, ?_⟩, Nat.mod_lt _ (by decide), h.saveGame,
      retains_turned hp.retains _⟩, rfl, Or.inr ⟨rfl, ?_⟩⟩
    · exact handleOk_turned _ rfl
    · rw [linesOf_turned]
      exact Function.update_self _ _ _
  · exact ⟨hp, rfl, Or.inl rfl⟩

/-- The game instance when `Init` has opened the log file. -/
def opening (w : World) : World :=
  { (openWrite { restarted w with
      saveGame := some (w.slot.getD 0), logFileIndex := w.slot.getD 0 } (w.slot.getD 0) true).1 with
    fileHandle := some 0 }

/-- The line `Init` writes. -/
def openLine (now : FString) : FString :=
  newLine now (LOGTEXT "ULanternGameInstance::OpenLogFile" 143 (TEXT "Success to open log file"))

theorem init_eq (w : World) (now : FString) :
    init (restarted w) now true true = .ok (logged (opening w) 0 (openLine now) true) :=
  logToFile_eq (w := opening w) now _ true rfl rfl

/-- **`Init`** begins a session if the index saved gives the newest lines. -/
theorem session_init (hs : w.slot.getD 0 < 9) (hr : retained w (w.slot.getD 0) <:+ w.written)
    (now : FString) :
    ∃ w', init (restarted w) now true true = .ok w' ∧ Session w' ∧ w'.slot = w.slot := by
  have hu : Session (opening w) := by
    refine ⟨⟨0, rfl, rfl⟩, hs, rfl, ?_⟩
    show entries 9 (linesOf (openWrite _ (w.slot.getD 0) true).1) (w.slot.getD 0) <:+ w.written
    rw [linesOf_openWrite]
    exact hr
  obtain ⟨w', hw', hsess, hslot, -⟩ := session_logToFile hu now
    (LOGTEXT "ULanternGameInstance::OpenLogFile" 143 (TEXT "Success to open log file"))
  exact ⟨w', hw', hsess, hslot⟩

/-- **`Save`** leaves a session settled. -/
theorem session_save (h : Session w) (now : FString) :
    ∃ w', save w now true = .ok w' ∧ Session w' ∧ Settled w' ∧ w'.slot = some w.logFileIndex := by
  obtain ⟨index, hi⟩ := Option.isSome_iff_exists.mp h.saveGame
  have hu : Session { w with saveGame := some w.logFileIndex, slot := some w.logFileIndex } :=
    ⟨h.handle, h.index_lt, rfl, h.retains⟩
  obtain ⟨w', hw', hsess, hslot, hturn⟩ := session_logToFile hu now
    (LOGTEXT "ULanternGameInstance::Save" 212 (TEXT "Data is saved"))
  refine ⟨w', ?_, hsess, ?_, hslot⟩
  · simp only [save, hi]
    exact hw'
  · unfold Settled
    rw [hslot]
    rcases hturn with heq | hnext
    · exact Or.inl heq.symm
    · exact Or.inr hnext

/-- **`Shutdown`** saves and closes the handle. -/
theorem session_shutdown (h : Session w) (now : FString) :
    ∃ w' handles, shutdown w now true = .ok { w' with handles := handles } ∧ Session w' ∧
      Settled w' ∧ w'.slot = some w.logFileIndex := by
  obtain ⟨w', hw', hsess, hset, hslot⟩ := session_save h now
  obtain ⟨handle, hf, ho⟩ := hsess.handle
  refine ⟨w', w'.handles.set handle none, ?_, hsess, hset, hslot⟩
  simp [shutdown, hw', bind, Except.bind, hf, delete, ho]

/-- **The index saved by a settled session gives the newest lines.** -/
theorem retained_settled (hr : Retains w) (hs : Settled w) :
    retained w (w.slot.getD 0) <:+ w.written := by
  rcases hs with heq | ⟨hnext, hempty⟩
  · rw [heq]
    exact hr
  · unfold retained
    rw [entries_back (by decide) (by rw [hnext]; exact hempty), hnext]
    exact hr

/-! ### Deployments -/

/-- The files retain the newest lines, now and, between sessions, for the one to come. -/
structure Kept (d : Deployment) : Prop where
  session : d.running = true → Session d.world
  slot_lt : d.world.slot.getD 0 < 9
  retains : Retains d.world
  idle : d.running = false → retained d.world (d.world.slot.getD 0) <:+ d.world.written

theorem retained_nil {i : ℕ} (h : linesOf w = fun _ => []) : retained w i = [] := by
  simp [retained, entries, h]

theorem kept_fresh {slot : Option ℕ} (hs : ∀ i, slot = some i → i < 9) : Kept (fresh slot) := by
  refine ⟨fun h => (by cases h), ?_, ?_, fun _ => ?_⟩
  · cases hslot : slot with
    | none => exact Nat.zero_lt_succ 8
    | some i => exact hs i hslot
  · rw [Retains, retained_nil rfl]
    exact List.nil_suffix
  · rw [retained_nil rfl]
    exact List.nil_suffix

/-- The running session goes on. -/
theorem kept_session (hw : Session w) (hs : w.slot.getD 0 < 9) : Kept ⟨w, true⟩ :=
  ⟨fun _ => hw, hs, hw.retains, fun h => (by cases h)⟩

theorem after_ok {running : Bool} {r : Except HandleFault World} {d : Deployment} {w : World}
    (hr : r = .ok w) (h : after running r = some d) : d = ⟨w, running⟩ := by
  subst hr
  exact (Option.some.inj h).symm

/-- **Every step** keeps the newest lines, unless a session that is not settled crashes. -/
theorem kept_next {d d' : Deployment} {e : Event} (h : Kept d) (hc : CrashSettled d e)
    (hn : Next d e d') : Kept d' := by
  unfold Next step at hn
  cases e with
  | start now =>
    obtain ⟨hrun, hn⟩ := Option.ite_none_left_eq_some.mp hn
    rw [Bool.not_eq_true] at hrun
    obtain ⟨w', hw', hsess, hslot⟩ := session_init h.slot_lt (h.idle hrun) now
    rw [after_ok hw' hn]
    exact kept_session hsess (by rw [hslot]; exact h.slot_lt)
  | logToFile now inString =>
    obtain ⟨hrun, hn⟩ := Option.ite_none_right_eq_some.mp hn
    obtain ⟨w', hw', hsess, hslot, -⟩ := session_logToFile (h.session hrun) now inString
    rw [after_ok hw' hn]
    exact kept_session hsess (by rw [hslot]; exact h.slot_lt)
  | save now =>
    obtain ⟨hrun, hn⟩ := Option.ite_none_right_eq_some.mp hn
    obtain ⟨w', hw', hsess, -, hslot⟩ := session_save (h.session hrun) now
    rw [after_ok hw' hn]
    exact kept_session hsess (by rw [hslot]; exact (h.session hrun).index_lt)
  | shutdown now =>
    obtain ⟨hrun, hn⟩ := Option.ite_none_right_eq_some.mp hn
    obtain ⟨w', handles, hw', hsess, hset, hslot⟩ := session_shutdown (h.session hrun) now
    rw [after_ok hw' hn]
    refine ⟨fun hf => (by cases hf), ?_, hsess.retains,
      fun _ => retained_settled hsess.retains hset⟩
    show w'.slot.getD 0 < 9
    rw [hslot]
    exact (h.session hrun).index_lt
  | crash =>
    obtain ⟨hrun, hn⟩ := Option.ite_none_right_eq_some.mp hn
    cases hn
    exact ⟨fun hf => (by cases hf), h.slot_lt, h.retains, fun _ => retained_settled h.retains hc⟩

/-- **The log files retain the newest lines**, if every session that ends abruptly is settled. -/
theorem retention (slot : Option ℕ) (hs : ∀ i, slot = some i → i < 9)
    (tr : List (Deployment × Event)) (d : Deployment) (hr : Run Next (fresh slot) tr d)
    (hc : Along CrashSettled tr) : Always (fun d => Retains d.world) tr d := by
  have hinv := hr.invariant (kept_fresh hs) (fun _ _ _ h hc hs => kept_next h hc hs) hc
  exact ⟨fun p hp => (hinv.1 p hp).retains, hinv.2.retains⟩

instance (d : Deployment) (e : Event) : Decidable (CrashSettled d e) :=
  match e with
  | .crash => inferInstanceAs (Decidable (_ ∨ _))
  | .start _ | .logToFile _ _ | .save _ | .shutdown _ => .isTrue trivial

/-- A session that is shut down, and one that crashes. -/
def twoSessions : List Event :=
  [.start [], .logToFile [] (TEXT "A"), .shutdown [], .start [], .crash]

theorem retention_twoSessions : ∃ tr d, Run Next (fresh none) tr d ∧
    tr.map Prod.snd = twoSessions ∧ Always (fun d => Retains d.world) tr d := by
  obtain ⟨d, hd⟩ := Option.isSome_iff_exists.mp (show (twoSessions.foldlM (fun d e =>
    if CrashSettled d e then step d e else none) (fresh none)).isSome from by decide +kernel)
  obtain ⟨tr, ⟨hr, hc⟩, htr⟩ := run_of_foldlM_along (fun _ _ _ h => h) twoSessions hd
  exact ⟨tr, d, hr, htr, retention none (fun i hi => (by cases hi)) tr d hr hc⟩

/-! ### A session that is not settled -/

theorem next_start (w : World) (now : FString) : Next ⟨w, false⟩ (.start now)
    ⟨logged (opening w) 0 (openLine now) true, true⟩ := by
  show after true (init (restarted w) now true true) = _
  rw [init_eq]
  rfl

theorem next_logToFile (w : World) (handle : ℕ) (now inString : FString)
    (hf : w.fileHandle = some handle) (ho : w.handles[handle]? = some (some w.logFileIndex)) :
    Next ⟨w, true⟩ (.logToFile now inString)
      ⟨logged w handle (newLine now inString) true, true⟩ := by
  show after true (logToFile w now inString true) = _
  rw [logToFile_eq now inString true hf ho]
  rfl

/-- A long line fills the first file, a line goes to the second, the session crashes: the next one
opens the first file again, finds it full, and deletes the second. -/
theorem exists_run_not_retains (big : FString) (hbig : logFileLimit ≤ big.length) :
    ∃ tr d, Run Next (fresh none) tr d ∧ ¬ Retains d.world := by
  set w0 := (fresh none).world
  set w1 := pushed (opening w0) (openLine [])
  set w2 := turned (pushed w1 (newLine [] big)) 0 true
  set w3 := pushed w2 (newLine [] (TEXT "A"))
  set w4 := turned (pushed (opening w3) (openLine [])) 0 true
  have hlong : logFileLimit ≤ (newLine [] big).length := by
    simp only [newLine, List.length_append]
    omega
  have hshort : (openLine []).length < logFileLimit := by decide +kernel
  have h1 : logged (opening w0) 0 (openLine []) true = w1 := if_neg (by decide +kernel)
  have h2 : logged w1 0 (newLine [] big) true = w2 := if_pos (Nat.le_add_left_of_le hlong)
  have h3 : logged w2 1 (newLine [] (TEXT "A")) true = w3 := by
    have hsize : fileSize w2 w2.logFileIndex = 0 := rfl
    refine if_neg ?_
    rw [hsize]
    decide +kernel
  have h4 : logged (opening w3) 0 (openLine []) true = w4 := by
    have hsize : fileSize (opening w3) (opening w3).logFileIndex =
      (openLine []).length + ((newLine [] big).length + 0) := rfl
    refine if_pos ?_
    rw [hsize]
    omega
  have r1 : Run Next (fresh none) _ ⟨w1, true⟩ := .snoc .nil (h1 ▸ next_start w0 [])
  have r2 : Run Next (fresh none) _ ⟨w2, true⟩ :=
    r1.snoc (h2 ▸ next_logToFile w1 0 [] big rfl rfl)
  have r3 : Run Next (fresh none) _ ⟨w3, true⟩ :=
    r2.snoc (h3 ▸ next_logToFile w2 1 [] (TEXT "A") rfl rfl)
  have hcrash : Next ⟨w3, true⟩ .crash ⟨w3, false⟩ := rfl
  have r4 : Run Next (fresh none) _ ⟨w3, false⟩ := r3.snoc hcrash
  have r5 : Run Next (fresh none) _ ⟨w4, true⟩ := r4.snoc (h4 ▸ next_start w3 [])
  refine ⟨_, _, r5, fun hr => ?_⟩
  -- the line of the second file is missing between the long line and the last
  have hfirst : linesOf w4 0 = [openLine [], newLine [] big, openLine []] := rfl
  have hempty : ∀ i ∈ [1, 2, 3, 4, 5, 6, 7, 8], linesOf w4 i = [] := by
    intro i hi
    simp only [List.mem_cons, List.not_mem_nil, or_false] at hi
    rcases hi with rfl | rfl | rfl | rfl | rfl | rfl | rfl | rfl <;> rfl
  have hret : retained w4 w4.logFileIndex = [openLine [], newLine [] big, openLine []] := by
    show entries 9 (linesOf w4) 1 = _
    simp [entries, List.range_succ, hfirst, hempty]
  have hwr : w4.written =
      [openLine []] ++ [newLine [] big, newLine [] (TEXT "A"), openLine []] := rfl
  obtain ⟨t, ht⟩ : [openLine [], newLine [] big, openLine []] <:+
      [openLine []] ++ [newLine [] big, newLine [] (TEXT "A"), openLine []] := by
    rw [← hret, ← hwr]
    exact hr
  have heq := (List.append_inj' ht rfl).2
  have hline : openLine [] = newLine [] big := (List.cons.inj heq).1
  rw [hline] at hshort
  omega

/-- **The log files do not always retain the newest lines.** -/
theorem not_always_retains : ¬ ∀ (tr : List (Deployment × Event)) (d : Deployment),
    Run Next (fresh none) tr d → Retains d.world := by
  intro h
  obtain ⟨tr, d, hr, hn⟩ := exists_run_not_retains (List.replicate logFileLimit 65)
    (Nat.le_of_eq List.length_replicate.symm)
  exact hn (h tr d hr)

end LanternProject.Log.Retention
