import LanternProject.Lib.Paths
import LanternProject.Pipeline.Screenshot

/-! # The folder of the screenshots

A background task puts the pid the manager holds, as it came with the message, behind the folder of
the day. The file lies directly in that folder exactly if the part of the pid before its last
separator leads back to it (`LeadsBack`): a pid without separators always does, one with `..` may
lead anywhere. No string of the engine holds a null character, so a path is the whole string. -/

namespace LanternProject.Pipeline.ScreenshotPath

open LanternProject.Lib LanternProject.Lib.Runs
open LanternProject.Engine.Str LanternProject.Engine.Json LanternProject.Widget.LanternWidget
open LanternProject.Pipeline.State LanternProject.Pipeline.Parse LanternProject.Pipeline.Request
open LanternProject.Pipeline.System LanternProject.Pipeline.Invariants
open LanternProject.Pipeline.Screenshot

/-! ### Paths of Windows -/

/-- Both slashes separate; the root is a drive, or the server and the share of a network path. -/
def windows : Paths.PathSyntax TCHAR where
  isSep c := c == UInt16.ofNat '/'.toNat || c == UInt16.ofNat '\\'.toNat
  dot := UInt16.ofNat '.'.toNat
  rootLength
    | [] :: [] :: _ :: _ :: _ => 4
    | c :: _ => if c.getLast? = some (UInt16.ofNat ':'.toNat) then 1 else 0
    | [] => 0

theorem isSep_of_all {s : FString} (h : (s.all fun c => !windows.isSep c) = true) :
    ∀ c ∈ s, windows.isSep c = false := by
  intro c hc
  simpa using List.all_eq_true.mp h c hc

/-- The root does not depend on what comes after two names that are not empty. -/
theorem rootLength_append (dirs : List FString) {a b : FString} (ha : a ≠ []) (hb : b ≠ [])
    (names : List FString) :
    windows.rootLength (dirs ++ [a, b] ++ names) = windows.rootLength (dirs ++ [a, b]) ∧
    windows.rootLength (dirs ++ [a, b]) ≤ (dirs ++ [a, b]).length := by
  obtain ⟨x, a, rfl⟩ := List.exists_cons_of_ne_nil ha
  obtain ⟨y, b, rfl⟩ := List.exists_cons_of_ne_nil hb
  have hdrive : ∀ (c : FString) (n : ℕ),
      (if c.getLast? = some (UInt16.ofNat ':'.toNat) then 1 else 0) ≤ n + 1 := by
    intro c n
    split_ifs <;> omega
  rcases dirs with _ | ⟨c, _ | ⟨d, dirs⟩⟩
  · exact ⟨rfl, hdrive _ _⟩
  · rcases c with _ | ⟨z, c⟩
    · exact ⟨rfl, hdrive [] _⟩
    · exact ⟨rfl, hdrive _ _⟩
  · rcases c with _ | ⟨z, c⟩
    · rcases d with _ | ⟨u, d⟩
      · rcases dirs with _ | ⟨e, _ | ⟨f, dirs⟩⟩
        · exact ⟨rfl, le_rfl⟩
        · exact ⟨rfl, by simp [windows]⟩
        · exact ⟨rfl, by simp [windows]⟩
      · exact ⟨rfl, hdrive [] _⟩
    · exact ⟨rfl, hdrive _ _⟩

/-! ### The folder of a day -/

/-- The name of the folder. -/
def folderName (now : FDateTime) : FString :=
  fromInt now.year ++ (if now.month < 10 then TEXT "0" else []) ++ fromInt now.month
    ++ (if now.day < 10 then TEXT "0" else []) ++ fromInt now.day

/-- The folder without its last separator. -/
def folderBase (env : Env) (now : FDateTime) : FString :=
  env.filePath ++ TEXT "Screenshots/" ++ folderName now

/-- `ImagePath`. -/
def screenshotFolder (env : Env) (now : FDateTime) : FString := folderBase env now ++ TEXT "/"

theorem isSep_ofNat {n : ℕ} (h : 48 ≤ n ∧ n ≤ 57) : windows.isSep (UInt16.ofNat n) = false := by
  obtain ⟨k, rfl⟩ : ∃ k : Fin 10, n = 48 + k := ⟨⟨n - 48, by omega⟩, by simp; omega⟩
  revert k
  decide

theorem isSep_fromInt (n : ℕ) : ∀ c ∈ fromInt n, windows.isSep c = false := by
  intro c hc
  obtain ⟨ch, hch, rfl⟩ := List.mem_map.mp hc
  have hdigit : ch.isDigit = true := by
    have htext : (toString n).toList = Nat.toDigits 10 n := by simp [toString, Nat.repr]
    rw [htext] at hch
    exact Nat.isDigit_of_mem_toDigits (by omega) le_rfl hch
  have hrange : 48 ≤ ch.toNat ∧ ch.toNat ≤ 57 := by
    simp only [Char.isDigit, Bool.and_eq_true, decide_eq_true_eq] at hdigit
    exact ⟨hdigit.1, hdigit.2⟩
  exact isSep_ofNat hrange

theorem isSep_folderName (now : FDateTime) : ∀ c ∈ folderName now, windows.isSep c = false := by
  have hzero : ∀ (p : Prop) [Decidable p], ∀ c ∈ (if p then TEXT "0" else []),
      windows.isSep c = false := by
    intro p _ c hc
    split_ifs at hc
    · rw [List.mem_singleton.mp hc]
      decide
    · exact absurd hc List.not_mem_nil
  intro c hc
  simp only [folderName, List.mem_append] at hc
  rcases hc with (((hc | hc) | hc) | hc) | hc
  · exact isSep_fromInt _ c hc
  · exact hzero _ c hc
  · exact isSep_fromInt _ c hc
  · exact hzero _ c hc
  · exact isSep_fromInt _ c hc

theorem folderName_ne_nil (now : FDateTime) : folderName now ≠ [] := by
  have hday : fromInt now.day ≠ [] := by
    intro h
    have hdigits : (toString now.day).toList = Nat.toDigits 10 now.day := by simp [toString, Nat.repr]
    have hnil := List.map_eq_nil_iff.mp h
    rw [hdigits] at hnil
    exact Nat.toDigits_ne_nil hnil
  intro h
  exact hday (List.append_eq_nil_iff.mp h).2

/-- The names of the folder: the last two are not empty. -/
theorem components_folderBase (env : Env) (now : FDateTime) :
    ∃ dirs name, name ≠ [] ∧ Paths.components windows (folderBase env now) =
      dirs ++ [name, folderName now] := by
  have hsep : windows.isSep (UInt16.ofNat '/'.toNat) = true := by decide
  have hbase : folderBase env now =
      env.filePath ++ TEXT "Screenshots" ++ UInt16.ofNat '/'.toNat :: folderName now := by
    have htext : TEXT "Screenshots/" = TEXT "Screenshots" ++ [UInt16.ofNat '/'.toNat] := by decide
    rw [folderBase, htext]
    simp
  obtain ⟨last, hlast⟩ := Paths.components_append windows
    (isSep_of_all (s := TEXT "Screenshots") (by decide)) env.filePath
  refine ⟨Paths.dirNames windows env.filePath, last ++ TEXT "Screenshots", ?_, ?_⟩
  · intro h
    exact absurd (List.append_eq_nil_iff.mp h).2 (by decide)
  · rw [hbase, Paths.components_append_sep windows hsep, hlast,
      Paths.components_of_no_sep windows (isSep_folderName now)]
    simp

/-! ### Where a pid leads -/

/-- The part of the pid before its last separator leads from the folder of the day back to it. -/
def LeadsBack (env : Env) (now : FDateTime) (pId : FString) : Prop :=
  Paths.resolve windows (Paths.normalize windows (folderBase env now)).names
    (Paths.dirNames windows pId) = (Paths.normalize windows (folderBase env now)).names

instance (env : Env) (now : FDateTime) (pId : FString) : Decidable (LeadsBack env now pId) :=
  inferInstanceAs (Decidable (_ = _))

theorem leadsBack_of_no_sep (env : Env) (now : FDateTime) {pId : FString}
    (h : ∀ c ∈ pId, windows.isSep c = false) : LeadsBack env now pId := by
  unfold LeadsBack
  rw [Paths.dirNames_of_no_sep windows h]
  rfl

/-- **Where a screenshot lies.** -/
theorem liesDirectlyIn_iff (env : Env) (now : FDateTime) (pId : FString) :
    Paths.LiesDirectlyIn windows (screenshotFolder env now)
      (screenshotFolder env now ++ (pId ++ TEXT "." ++ TEXT "jpg")) ↔ LeadsBack env now pId := by
  obtain ⟨dirs, name, hname, hcomponents⟩ := components_folderBase env now
  have hroot := fun names => rootLength_append dirs hname (folderName_ne_nil now) names
  have hext : pId ++ TEXT "." ++ TEXT "jpg" = pId ++ TEXT ".jpg" := by
    have htext : TEXT ".jpg" = TEXT "." ++ TEXT "jpg" := by decide
    rw [htext, List.append_assoc]
  rw [hext]
  exact Paths.liesDirectlyIn_iff (by decide)
    (fun names => by rw [hcomponents]; exact (hroot names).1)
    (by rw [hcomponents]; exact (hroot []).2) pId
    (isSep_of_all (by decide)) (by decide)

/-! ### Runs -/

/-- Every screenshot lies directly in the folder of a day. -/
def Inside (env : Env) (w : World) : Prop :=
  ∀ f ∈ w.screenshotFiles, ∃ now, f.imagePath = screenshotFolder env now ∧
    Paths.LiesDirectlyIn windows f.imagePath (f.imagePath ++ f.imageName)

/-- If the event writes a screenshot, the pid the manager holds leads back to the folder. -/
def StaysIn (env : Env) (w : World) : Event → Prop
  | .screenshotTask _ now true => LeadsBack env now w.mqttManager.pId
  | _ => True

variable {env : Env} {w w' : World} {e : Event}

/-- **One step** keeps the screenshots inside exactly if it writes none or stays in. -/
theorem inside_next (ht : TasksOk env w) (h : Inside env w) (hn : Next env w e w') :
    Inside env w' ↔ StaysIn env w e := by
  cases next_cases hn with
  | idle | reject | accept | startTimer | removeAllLantern | ask | failed | spawnText | spawnImage |
    spawnLantern | capture => exact ⟨fun _ => trivial, fun _ => h⟩
  | screenshot i now saved task hi =>
    rcases saved with _ | _
    · exact ⟨fun _ => trivial, fun _ => h⟩
    · have hfmt := (ht task (List.mem_of_getElem? hi)).1
      have hpath : ∀ pId : FString, pId ++ TEXT "." ++ task.imageFormat =
          pId ++ TEXT "." ++ TEXT "jpg" := fun pId => by rw [hfmt]
      constructor
      · intro hin
        obtain ⟨now', hfolder, hlies⟩ :=
          hin _ (List.mem_append_right _ (List.mem_singleton_self _))
        refine (liesDirectlyIn_iff env now w.mqttManager.pId).mp ?_
        rw [← hpath]
        exact hlies
      · intro hstay f hf
        rcases List.mem_append.mp hf with hf | hf
        · exact h f hf
        · rw [List.mem_singleton.mp hf]
          refine ⟨now, rfl, ?_⟩
          have hlies := (liesDirectlyIn_iff env now w.mqttManager.pId).mpr hstay
          rw [← hpath] at hlies
          exact hlies

/-- **The screenshots stay in their folder** exactly as long as every pid that names one leads back to
it. -/
theorem screenshots_inside_iff (env : Env) (types : LanternTypes) (tr : List (World × Event))
    (w : World) (hr : Run (Next env) (init types) tr w) :
    Always (Inside env) tr w ↔ Along (StaysIn env) tr := by
  refine hr.always_iff_along (I := TasksOk env) (A := fun _ _ => True) ?_ ?_ ?_ ?_
    (fun _ _ => trivial)
  · exact fun t ht => absurd ht List.not_mem_nil
  · exact fun f hf => absurd hf List.not_mem_nil
  · exact fun u e u' hI _ _ hs _ => tasksOk_next hI hs
  · exact fun u e u' hI h _ hs => inside_next hI h hs

/-- The pids the messages come with have no separators. -/
def PlainPids (env : Env) (w : World) : Prop :=
  ∀ message ∈ w.accepted, ∀ c ∈ (parsed env message).pId, windows.isSep c = false

theorem stays_of_plainPids (hb : Books env w) (hp : PlainPids env w) : StaysIn env w e := by
  have hpid : ∀ c ∈ w.mqttManager.pId, windows.isSep c = false := by
    have hfields : w.mqttManager.pId = (lastFields env w.accepted w.requested).pId :=
      congrArg Fields.pId hb.fields
    rw [hfields]
    rcases hreq : w.requested with _ | n
    · exact fun c hc => absurd hc List.not_mem_nil
    · rcases hm : w.accepted[n]? with _ | message
      · intro c hc
        rw [lastFields, hm] at hc
        exact absurd hc List.not_mem_nil
      · rw [lastFields_succ hm]
        exact hp message (List.mem_of_getElem? hm)
  rcases e with _ | _ | _ | _ | ⟨i, now, saved⟩ | _ | _ | _
  case screenshotTask =>
    rcases saved with _ | _
    · trivial
    · exact leadsBack_of_no_sep env now hpid
  all_goals trivial

/-- **Ordinary pids stay inside.** -/
theorem inside_of_plainPids {types : LanternTypes} {tr : List (World × Event)}
    (hr : Run (Next env) (init types) tr w) (hp : PlainPids env w) : Inside env w := by
  have hinv := hr.invariant' (I := fun w => Books env w ∧ TasksOk env w ∧
      (PlainPids env w → Inside env w)) ?_ ?_
  · exact hinv.2.2 hp
  · exact ⟨books_init env types, fun t ht => absurd ht List.not_mem_nil,
      fun _ f hf => absurd hf List.not_mem_nil⟩
  · rintro u e u' ⟨hb, ht, hin⟩ hs
    refine ⟨books_next hb hs, tasksOk_next ht hs, fun hp => ?_⟩
    have hpu : PlainPids env u := fun message hm => hp message ((grows_next hs).1.subset hm)
    exact (inside_next ht (hin hpu) hs).mpr (stays_of_plainPids hb hpu)

/-! ### A pid that leads away -/

/-- A letter whose pid leads to the folder above the screenshots. -/
def escapingLetter : FString := letterText "\x7b\"pid\":\"../../x\"\x7d"

/-- The parser knows this letter too. -/
def escapingEnv : Env := { sampleEnv with
  deserialize := fun s =>
    if s = escapingLetter then some (letterWith [(TEXT "pid", .string (TEXT "../../x"))])
    else sampleEnv.deserialize s
  filePath := TEXT "C:/Lantern/" }

/-- The day the screenshot is written. -/
def newYear : FDateTime := ⟨2025, 1, 1⟩

/-- The letter arrives and is taken, then its screenshot is written. -/
def escapingRun : List Event :=
  [.startTimer, .onMessage [] escapingLetter, .tick 0 firstChoice, .screenshotTask 0 newYear true]

theorem screenshots_inside_iff_escapingRun : ∃ tr w, Run (Next escapingEnv) sampleWorld tr w ∧
    tr.map Prod.snd = escapingRun ∧
    (Always (Inside escapingEnv) tr w ↔ Along (StaysIn escapingEnv) tr) := by
  obtain ⟨w, hp⟩ : ∃ w, play escapingEnv sampleWorld escapingRun = some w :=
    Option.isSome_iff_exists.mp (by decide +kernel)
  obtain ⟨tr, hr, htr⟩ := run_of_play hp
  exact ⟨tr, w, hr, htr, screenshots_inside_iff escapingEnv _ tr w hr⟩

/-- **A message can have a file written elsewhere**: with the pid `../../x` it is `C:/Lantern/x.jpg`. -/
theorem not_always_inside : ¬ ∀ (env : Env) (types : LanternTypes) (tr : List (World × Event))
    (w : World), Run (Next env) (init types) tr w → Inside env w := by
  intro h
  have hp : (play escapingEnv sampleWorld escapingRun).map (fun w =>
      w.screenshotFiles.map fun f => (f.imagePath, f.imageName)) =
        some [(screenshotFolder escapingEnv newYear, TEXT "../../x" ++ TEXT "." ++ TEXT "jpg")] := by
    decide +kernel
  obtain ⟨w, hw, hfiles⟩ := Option.map_eq_some_iff.mp hp
  obtain ⟨tr, hr, -⟩ := run_of_play hw
  obtain ⟨f, hf, hname⟩ := List.mem_map.mp (hfiles ▸ List.mem_singleton_self _)
  obtain ⟨hpath, hname⟩ := Prod.mk.inj hname
  obtain ⟨now, -, hlies⟩ := h escapingEnv _ tr w hr f hf
  rw [hpath, hname] at hlies
  have hback := (liesDirectlyIn_iff escapingEnv newYear (TEXT "../../x")).mp hlies
  exact absurd hback (by decide +kernel)

end LanternProject.Pipeline.ScreenshotPath
