import LanternProject.Engine.Str

/-! # Reading the settings

`LoadConfig` adds an entry to `ConfigMap` for every line of `Config.txt` that is neither empty nor a
comment: what stands before and after the first `=`, and twice the empty string if there is none.
`Assigns` says independently of the code which lines give a value to a key; of these the last one
wins (`loadConfig_spec`). -/

namespace LanternProject.Config.LoadConfig

open LanternProject.Engine.Str LanternProject.Lib

/-- `ConfigMap`. -/
abbrev FConfigMap := List (FString × FString)

/-- What the program asks the file system; `none` if a file cannot be read. -/
structure IPlatformFile where
  fileExists : FString → Bool
  loadFileToStringArray : FString → Option (List FString)

/-- A character of a literal. -/
def TCHAR.ofChar (c : Char) : TCHAR := UInt16.ofNat c.toNat

/-- `LoadFile`; `none` if it returns false. -/
def loadFile (fileManager : IPlatformFile) (filePath fileName : FString) :
    Option (List FString) :=
  if fileManager.fileExists (filePath ++ fileName) = false then none
  else fileManager.loadFileToStringArray (filePath ++ fileName)

/-- One pass of the loop of `LoadConfig`. -/
def configLine (configMap : FConfigMap) (iter : FString) : FConfigMap :=
  if iter.isEmpty || iter.head? == some (TCHAR.ofChar '#') then configMap
  else
    let (leftStr, rightStr) := (split iter (TEXT "=")).getD ([], [])
    mapAdd configMap leftStr rightStr

/-- `LoadConfig`. -/
def loadConfig (fileManager : IPlatformFile) (filePath : FString) (configMap : FConfigMap) :
    FConfigMap × Bool :=
  match loadFile fileManager filePath (TEXT "Config.txt") with
  | none => (configMap, false)
  | some fileContentArray => (fileContentArray.foldl configLine configMap, true)

/-! ### The meaning of a line -/

/-- The line gives the value to the key: it is not empty, not a comment, and the part before its
first `=` is the key, the part after it the value. -/
def Assigns (key value line : FString) : Prop :=
  line ≠ [] ∧ line.head? ≠ some (TCHAR.ofChar '#') ∧
    ∃ name, line = name ++ TCHAR.ofChar '=' :: value ∧ TCHAR.ofChar '=' ∉ name ∧
      equalsIgnoreCase name key = true

/-- The last of the lines that give a value to the key. -/
def LastAssigning (key : FString) (lines : List FString) (line : FString) : Prop :=
  ∃ pre post, lines = pre ++ line :: post ∧ (∃ value, Assigns key value line) ∧
    ∀ l ∈ post, ∀ value, ¬ Assigns key value l

/-- The lines of the file, if it is there and can be read. -/
def ConfigLines (fileManager : IPlatformFile) (filePath : FString) (lines : List FString) : Prop :=
  fileManager.fileExists (filePath ++ TEXT "Config.txt") = true ∧
    fileManager.loadFileToStringArray (filePath ++ TEXT "Config.txt") = some lines

/-- The lines, read over the settings `before`, leave `after` for the key: the value of the last
line that gives it one, and what was there if no line does. -/
structure LastWins (lines : List FString) (before after : FConfigMap) (key : FString) : Prop where
  assigned : (∃ line ∈ lines, ∃ value, Assigns key value line) →
    ∀ value, mapFind after key = some value ↔
      ∃ line, LastAssigning key lines line ∧ Assigns key value line
  kept : (∀ line ∈ lines, ∀ value, ¬ Assigns key value line) →
    mapFind after key = mapFind before key

/-! ### The loop -/

/-- The entry a line adds. -/
def entryOf (iter : FString) : Option (FString × FString) :=
  if iter.isEmpty || iter.head? == some (TCHAR.ofChar '#') then none
  else some ((split iter (TEXT "=")).getD ([], []))

/-- The loop adds the entries of the lines. -/
theorem foldl_configLine (configMap : FConfigMap) (lines : List FString) :
    lines.foldl configLine configMap =
      Overwriting.addAll (List.map toLower) entryOf configMap lines := by
  unfold Overwriting.addAll
  congr 1
  funext m line
  unfold configLine entryOf
  split_ifs <;> rfl

/-- The entries of nonempty keys are the assignments; the empty key comes from a line without a
separator too. -/
theorem adds_entryOf_iff {key value line : FString} (hkey : key ≠ []) :
    Overwriting.Adds (List.map toLower) entryOf key value line ↔ Assigns key value line := by
  unfold Overwriting.Adds entryOf Assigns
  have hcut : ∀ l r, split line (TEXT "=") = some (l, r) ↔
      line = l ++ TCHAR.ofChar '=' :: r ∧ TCHAR.ofChar '=' ∉ l :=
    fun l r => split_singleton (by decide)
  by_cases hskip : (line.isEmpty || line.head? == some (TCHAR.ofChar '#')) = true
  · rw [if_pos hskip]
    constructor
    · rintro ⟨j, hj, -⟩
      exact absurd hj (by simp)
    · rintro ⟨hne, hhead, -⟩
      rcases Bool.or_eq_true_iff.mp hskip with h | h
      · exact absurd (List.isEmpty_iff.mp h) hne
      · exact absurd (by simpa using h) hhead
  · rw [if_neg hskip]
    simp only [Bool.or_eq_true, not_or, List.isEmpty_iff, beq_iff_eq] at hskip
    constructor
    · rintro ⟨name, hentry, hname⟩
      rcases hs : split line (TEXT "=") with _ | ⟨l, r⟩
      · rw [hs, Option.getD_none, Option.some.injEq, Prod.mk.injEq] at hentry
        rw [← hentry.1] at hname
        exact absurd (List.map_eq_nil_iff.mp hname.symm) hkey
      · rw [hs, Option.getD_some, Option.some.injEq, Prod.mk.injEq] at hentry
        obtain ⟨rfl, rfl⟩ := hentry
        obtain ⟨hline, hmem⟩ := (hcut l r).mp hs
        exact ⟨hskip.1, hskip.2, l, hline, hmem, equalsIgnoreCase_iff.mpr hname⟩
    · rintro ⟨-, -, name, hline, hmem, hname⟩
      have hs := (hcut name value).mpr ⟨hline, hmem⟩
      exact ⟨name, by rw [hs, Option.getD_some], equalsIgnoreCase_iff.mp hname⟩

/-! ### The settings read -/

theorem loadFile_eq_some {fileManager : IPlatformFile} {filePath : FString}
    {lines : List FString} :
    loadFile fileManager filePath (TEXT "Config.txt") = some lines ↔
      ConfigLines fileManager filePath lines := by
  unfold loadFile ConfigLines
  split_ifs with h <;> simp [h]

/-- **What the loop leaves**: for every nonempty key the last assignment. -/
theorem lastWins_foldl (lines : List FString) (configMap : FConfigMap) {key : FString}
    (hkey : key ≠ []) : LastWins lines configMap (lines.foldl configLine configMap) key := by
  have hadds : ∀ {value line}, Overwriting.Adds (List.map toLower) entryOf key value line ↔
      Assigns key value line := adds_entryOf_iff hkey
  have hlast : ∀ {line}, LastAssigning key lines line →
      Overwriting.IsLast (fun l => ∃ v, Overwriting.Adds (List.map toLower) entryOf key v l)
        lines line := by
    rintro line ⟨pre, post, hlines, ⟨v, hv⟩, hpost⟩
    exact ⟨pre, post, hlines, ⟨v, hadds.mpr hv⟩, fun l hl ⟨w, hw⟩ => hpost l hl w (hadds.mp hw)⟩
  rw [foldl_configLine]
  constructor
  · intro hex value
    have hlines : ∃ line ∈ lines, ∃ value, Assigns key value line := hex
    obtain ⟨line, pre, post, hsplit, ⟨v, hv⟩, hpost⟩ := Overwriting.exists_isLast hlines
    have hline : LastAssigning key lines line :=
      ⟨pre, post, hsplit, ⟨v, hv⟩, fun l hl w hw => hpost l hl ⟨w, hw⟩⟩
    constructor
    · intro hfind
      rw [mapFind_eq, Overwriting.find_addAll_of_isLast _ (hlast hline) (hadds.mpr hv)] at hfind
      exact ⟨line, hline, Option.some.inj hfind ▸ hv⟩
    · rintro ⟨line', hline', hv'⟩
      rw [mapFind_eq]
      exact Overwriting.find_addAll_of_isLast _ (hlast hline') (hadds.mpr hv')
  · intro hno
    rw [mapFind_eq, mapFind_eq]
    exact Overwriting.find_addAll_of_not_adds _ fun line hl v hv => hno line hl v (hadds.mp hv)

/-- **The settings after `LoadConfig`**: if the file can be read it returns true and the last
assignment of every nonempty key counts; otherwise it returns false and changes nothing. -/
theorem loadConfig_lastWins (fileManager : IPlatformFile) (filePath : FString)
    (configMap : FConfigMap) :
    (∀ lines, ConfigLines fileManager filePath lines →
      (loadConfig fileManager filePath configMap).2 = true ∧ ∀ key, key ≠ [] →
        LastWins lines configMap (loadConfig fileManager filePath configMap).1 key) ∧
    ((∀ lines, ¬ ConfigLines fileManager filePath lines) →
      loadConfig fileManager filePath configMap = (configMap, false)) := by
  unfold loadConfig
  constructor
  · intro lines hlines
    rw [loadFile_eq_some.mpr hlines]
    exact ⟨rfl, fun key hkey => lastWins_foldl lines configMap hkey⟩
  · intro hno
    rcases hl : loadFile fileManager filePath (TEXT "Config.txt") with _ | lines
    · rfl
    · exact absurd (loadFile_eq_some.mp hl) (hno lines)

/-- A key is there after `LoadConfig` if it was before or some line assigns it. -/
theorem mapFind_loadConfig_ne_none {fileManager : IPlatformFile} {filePath key : FString}
    {lines : List FString} (hlines : ConfigLines fileManager filePath lines)
    (configMap : FConfigMap) (hkey : key ≠ []) :
    mapFind (loadConfig fileManager filePath configMap).1 key ≠ none ↔
      mapFind configMap key ≠ none ∨ ∃ line ∈ lines, ∃ value, Assigns key value line := by
  have hloaded : (loadConfig fileManager filePath configMap).1 =
      lines.foldl configLine configMap := by
    unfold loadConfig
    rw [loadFile_eq_some.mpr hlines]
  rw [hloaded, foldl_configLine, mapFind_eq, mapFind_eq, Overwriting.find_addAll_ne_none_iff]
  simp only [adds_entryOf_iff hkey]

/-- A file with a comment, an empty line, a line without a separator and a repeated key. -/
def sampleLines : List FString :=
  [TEXT "# window", TEXT "Left=1", [], TEXT "left", TEXT "LEFT=2=3", TEXT "top=4"]

def sampleFiles : IPlatformFile := ⟨fun _ => true, fun _ => some sampleLines⟩

theorem loadConfig_lastWins_sample :
    mapFind (loadConfig sampleFiles [] []).1 (TEXT "left") = some (TEXT "2=3") := by
  have hlines : ConfigLines sampleFiles [] sampleLines := ⟨rfl, rfl⟩
  have hlast : Assigns (TEXT "left") (TEXT "2=3") (TEXT "LEFT=2=3") :=
    ⟨by decide, by decide, TEXT "LEFT", by decide, by decide, by decide⟩
  have hwins := ((loadConfig_lastWins sampleFiles [] []).1 sampleLines hlines).2 (TEXT "left")
    (by decide)
  refine (hwins.assigned ⟨_, by decide, _, hlast⟩ _).mpr ⟨_, ?_, hlast⟩
  refine ⟨sampleLines.take 4, [TEXT "top=4"], by decide, ⟨_, hlast⟩, ?_⟩
  intro l hl value hv
  obtain ⟨-, -, name, hline, hmem, hname⟩ := hv
  rw [List.mem_singleton.mp hl] at hline
  have hs := (split_singleton (by decide)).mpr ⟨hline, hmem⟩
  have htop : split (TEXT "top=4") [TCHAR.ofChar '='] = some (TEXT "top", TEXT "4") := by decide
  have hkey : name = TEXT "top" := (Prod.mk.inj (Option.some.inj (hs.symm.trans htop))).1
  exact absurd hname (by rw [hkey]; decide)

end LanternProject.Config.LoadConfig
