import LanternProject.Engine.Basic

/-! # Textures and their bulk data

A texture made at run time has one mip, whose bytes are reached through a lock: `Lock` and
`LockReadOnly` demand that the bulk data is unlocked, `Unlock` that it is locked, and `UpdateResource`
changes nothing of it. `Textures` lists all that were created; a pointer to one is its number, and a
function that creates one works on the last (`lock_concat`, `memcpyTo_concat`, `unlock_concat`). -/

namespace LanternProject.Lantern.Texture

open LanternProject.Engine.Basic

/-- The first mip of a texture of format `PF_B8G8R8A8`. -/
structure FTexture2DMipMap where
  sizeX : ℕ
  sizeY : ℕ
  bulkData : List UInt8
  locked : Bool
  length_bulkData : bulkData.length = sizeX * sizeY * 4
deriving DecidableEq

/-- The textures that were created. -/
abbrev Textures := List FTexture2DMipMap

/-- A new mip. -/
def emptyMip (sizeX sizeY : ℕ) : FTexture2DMipMap where
  sizeX := sizeX
  sizeY := sizeY
  bulkData := List.replicate (sizeX * sizeY * 4) 0
  locked := false
  length_bulkData := List.length_replicate

/-- `CreateTransient`; no texture without a pixel. -/
def createTransient (ts : Textures) (sizeX sizeY : ℕ) : Textures × Option ℕ :=
  if 0 < sizeX ∧ 0 < sizeY then (ts ++ [emptyMip sizeX sizeY], some ts.length) else (ts, none)

/-- `Lock` and `LockReadOnly`. -/
def lock (ts : Textures) (t : ℕ) : Except Fault Textures :=
  match ts[t]? with
  | none => .error .nullPointer
  | some mip => if mip.locked then .error .lockStatus else .ok (ts.set t { mip with locked := true })

/-- `Unlock`. -/
def unlock (ts : Textures) (t : ℕ) : Except Fault Textures :=
  match ts[t]? with
  | none => .error .nullPointer
  | some mip => if mip.locked then .ok (ts.set t { mip with locked := false }) else .error .lockStatus

/-- The mip with its first bytes overwritten. -/
def FTexture2DMipMap.write (mip : FTexture2DMipMap) (data : List UInt8)
    (h : data.length ≤ mip.bulkData.length) : FTexture2DMipMap :=
  { mip with
    bulkData := data ++ mip.bulkData.drop data.length
    length_bulkData := by
      rw [List.length_append, List.length_drop, ← mip.length_bulkData]
      omega }

/-- `Memcpy` into the mip. -/
def memcpyTo (ts : Textures) (t : ℕ) (data : List UInt8) : Except Fault Textures :=
  match ts[t]? with
  | none => .error .nullPointer
  | some mip =>
    if h : data.length ≤ mip.bulkData.length then .ok (ts.set t (mip.write data h))
    else .error .bufferOverrun

/-- The `n` bytes `Memcpy` takes from `data`. -/
def memcpyFrom (data : List UInt8) (n : ℕ) : Except Fault (List UInt8) :=
  if n ≤ data.length then .ok (data.take n) else .error .bufferOverrun

variable {ts : Textures} {mip : FTexture2DMipMap}

/-! ### Locking and unlocking -/

theorem lock_free {t : ℕ} (hmip : ts[t]? = some mip) (hfree : mip.locked = false) :
    lock ts t = .ok (ts.set t { mip with locked := true }) := by
  rw [lock, hmip]
  simp only [hfree, Bool.false_eq_true, if_false]

theorem lock_locked {t : ℕ} (hmip : ts[t]? = some mip) (hlocked : mip.locked = true) :
    lock ts t = .error .lockStatus := by
  rw [lock, hmip]
  simp only [hlocked, if_true]

/-- Unlocking undoes the lock. -/
theorem unlock_set_locked {t : ℕ} (hmip : ts[t]? = some mip) (hfree : mip.locked = false) :
    unlock (ts.set t { mip with locked := true }) t = .ok ts := by
  have hlt : t < ts.length := (List.getElem?_eq_some_iff.mp hmip).1
  rw [unlock, List.getElem?_set_self hlt]
  simp only [if_true, List.set_set, Except.ok.injEq]
  refine List.ext_getElem? fun k => ?_
  rw [List.getElem?_set]
  split_ifs with hk
  · subst hk
    rw [hmip, ← hfree]
  · rfl

/-! ### On the texture created last -/

theorem getElem?_concat (ts : Textures) (mip : FTexture2DMipMap) :
    (ts ++ [mip])[ts.length]? = some mip := by simp

theorem set_concat (ts : Textures) (mip mip' : FTexture2DMipMap) :
    (ts ++ [mip]).set ts.length mip' = ts ++ [mip'] := by simp

theorem lock_concat (h : mip.locked = false) :
    lock (ts ++ [mip]) ts.length = .ok (ts ++ [{ mip with locked := true }]) := by
  simp only [lock, getElem?_concat, h, Bool.false_eq_true, if_false, set_concat]

theorem unlock_concat (h : mip.locked = true) :
    unlock (ts ++ [mip]) ts.length = .ok (ts ++ [{ mip with locked := false }]) := by
  simp only [unlock, getElem?_concat, h, if_true, set_concat]

theorem memcpyTo_concat {data : List UInt8} (h : data.length ≤ mip.bulkData.length) :
    memcpyTo (ts ++ [mip]) ts.length data = .ok (ts ++ [mip.write data h]) := by
  simp only [memcpyTo, getElem?_concat, dif_pos h, set_concat]

theorem memcpyTo_concat_overrun {data : List UInt8} (h : ¬ data.length ≤ mip.bulkData.length) :
    memcpyTo (ts ++ [mip]) ts.length data = .error .bufferOverrun := by
  simp only [memcpyTo, getElem?_concat, dif_neg h]

/-! ### Making a texture of given bytes -/

/-- The mip of a new texture that `data` was written into. -/
def filledMip (sizeX sizeY : ℕ) (data : List UInt8) (h : data.length ≤ sizeX * sizeY * 4)
    (locked : Bool) : FTexture2DMipMap :=
  { (emptyMip sizeX sizeY).write data (by rwa [(emptyMip sizeX sizeY).length_bulkData]) with
    locked := locked }

/-- A new texture that is filled with the bytes of a mip of its size is that mip. -/
theorem filledMip_bulkData (mip : FTexture2DMipMap) (locked : Bool) :
    filledMip mip.sizeX mip.sizeY mip.bulkData mip.length_bulkData.le locked =
      { mip with locked := locked } := by
  have hrest : (emptyMip mip.sizeX mip.sizeY).bulkData.drop mip.bulkData.length = [] := by
    rw [List.drop_eq_nil_iff, (emptyMip _ _).length_bulkData, mip.length_bulkData]
    exact le_rfl
  simp only [filledMip, FTexture2DMipMap.write, hrest, List.append_nil]
  rfl

/-- A new texture is locked, written and unlocked, whatever comes then. -/
theorem lock_memcpyTo_unlock_new {β : Type} (ts : Textures) (sizeX sizeY : ℕ) (data : List UInt8)
    (k : Textures → Except Fault β) :
    (do
      let ts' ← lock (ts ++ [emptyMip sizeX sizeY]) ts.length
      let ts' ← memcpyTo ts' ts.length data
      let ts' ← unlock ts' ts.length
      k ts') =
    if h : data.length ≤ sizeX * sizeY * 4 then k (ts ++ [filledMip sizeX sizeY data h false])
    else .error .bufferOverrun := by
  have hlen : (emptyMip sizeX sizeY).bulkData.length = sizeX * sizeY * 4 :=
    (emptyMip sizeX sizeY).length_bulkData
  rw [lock_concat rfl]
  simp only [bind, Except.bind]
  split_ifs with h
  · rw [memcpyTo_concat (by rw [hlen]; exact h)]
    simp only
    rw [unlock_concat rfl]
    rfl
  · rw [memcpyTo_concat_overrun (by rw [hlen]; exact h)]

/-- A new texture is locked and `count` bytes are written into it; it stays locked. -/
theorem lock_memcpyTo_count_new {β : Type} (ts : Textures) (sizeX sizeY count : ℕ)
    (pixels : List UInt8) (k : Textures → Except Fault β) :
    (do
      let ts' ← lock (ts ++ [emptyMip sizeX sizeY]) ts.length
      let data ← memcpyFrom pixels count
      let ts' ← memcpyTo ts' ts.length data
      k ts') =
    if h : count ≤ pixels.length ∧ count ≤ sizeX * sizeY * 4 then
      k (ts ++ [filledMip sizeX sizeY (pixels.take count) (by rw [List.length_take]; omega) true])
    else .error .bufferOverrun := by
  have hlen : (emptyMip sizeX sizeY).bulkData.length = sizeX * sizeY * 4 :=
    (emptyMip sizeX sizeY).length_bulkData
  rw [lock_concat rfl]
  simp only [bind, Except.bind, memcpyFrom]
  by_cases hsource : count ≤ pixels.length
  · have htake : (pixels.take count).length = count := by
      rw [List.length_take]
      omega
    rw [if_pos hsource]
    by_cases hdest : count ≤ sizeX * sizeY * 4
    · rw [dif_pos ⟨hsource, hdest⟩]
      simp only
      rw [memcpyTo_concat (by rw [hlen, htake]; exact hdest)]
      rfl
    · rw [dif_neg fun h => hdest h.2]
      simp only
      rw [memcpyTo_concat_overrun (by rw [hlen, htake]; exact hdest)]
  · rw [if_neg hsource, dif_neg fun h => hsource h.1]

/-- A new texture is locked and written, and stays locked. -/
theorem lock_memcpyTo_new {β : Type} (ts : Textures) (sizeX sizeY : ℕ) (pixels : List UInt8)
    (k : Textures → Except Fault β) :
    (do
      let ts' ← lock (ts ++ [emptyMip sizeX sizeY]) ts.length
      let data ← memcpyFrom pixels (sizeX * sizeY * 4)
      let ts' ← memcpyTo ts' ts.length data
      k ts') =
    if sizeX * sizeY * 4 ≤ pixels.length then
      k (ts ++ [filledMip sizeX sizeY (pixels.take (sizeX * sizeY * 4)) (by simp) true])
    else .error .bufferOverrun := by
  rw [lock_memcpyTo_count_new]
  simp only [le_refl, and_true]
  rfl

end LanternProject.Lantern.Texture
