import UsbAsio.DmaResource

/-!
# Allocations that fail

`do_allocate` is left by an exception when there is no memory for it, when the backup resource
throws, and when `allocated_dma_chunks_` cannot grow. The first two leave everything as it was; in
the third case the chunk that was to be put on the list is on no list, and never freed.
-/

namespace UsbAsio.DmaResource

open Ledger

/-! ### The property and the condition -/

def Chunk.source : Chunk → Source
  | .dma _ _      => .dma
  | .backup _ _ _ => .backup

/-- What has been obtained from `source` and not given back. -/
def heldFrom (source : Source) (log : List (Event Chunk)) : Finset Chunk :=
  {c ∈ held log | c.source = source}

/-- From `s` to `t`, the same chunks of either kind are held, and the list is the same. -/
structure Restored (s t : State) : Prop where
  dma : heldFrom .dma t.log = heldFrom .dma s.log
  chunks : t.allocatedDmaChunks = s.allocatedDmaChunks
  backup : heldFrom .backup t.log = heldFrom .backup s.log

/-- If `do_allocate` throws, it has left everything as it was. -/
def LeaksNothing (s : State) (bytes alignment dmaPtr : ℕ) (pushed : Bool)
    (backupPtr : Option ℕ) : Prop :=
  let r := s.doAllocate bytes alignment dmaPtr pushed backupPtr
  r.2 = none → Restored s r.1

/-- An aligned chunk is to be put on the list, and the list cannot grow. -/
def PushThrows (s : State) (alignment dmaPtr : ℕ) (pushed : Bool) : Prop :=
  (dmaPtr ≠ 0 ∧ dmaPtr &&& alignmentMask alignment = 0) ∧ s.backupResource = true ∧ pushed = false

variable {s : State} {bytes alignment dmaPtr : ℕ} {pushed : Bool} {backupPtr : Option ℕ}

/-! ### The exits -/

lemma Restored.refl (s : State) : Restored s s := ⟨rfl, rfl, rfl⟩

/-- Nothing happens before the backup resource throws. -/
lemma State.allocateBackup_throws (h : (s.allocateBackup bytes alignment backupPtr).2 = none) :
    (s.allocateBackup bytes alignment backupPtr).1 = s := by
  rcases s.allocateBackup_cases bytes alignment backupPtr with heq | ⟨ptr, -, -, heq⟩
  · rw [heq]
  · rw [heq] at h
    cases h

/-- A new chunk that has come and gone makes no difference. -/
lemma restored_bounce (hfresh : .dma dmaPtr bytes ∉ held s.log) :
    Restored s (s.bounce dmaPtr bytes) := by
  have hheld : held (s.bounce dmaPtr bytes).log = held s.log := by
    simp only [State.bounce, State.record, held_release, held_acquire]
    exact Finset.erase_insert hfresh
  refine ⟨?_, rfl, ?_⟩ <;> rw [heldFrom, heldFrom, hheld]

/-- The list could not grow, and the chunk stays behind. -/
lemma not_restored_acquire (hfresh : .dma dmaPtr bytes ∉ held s.log) :
    ¬ Restored s (s.record (.acquire (.dma dmaPtr bytes))) := by
  intro h
  have hmem : .dma dmaPtr bytes ∈ heldFrom .dma (s.record (.acquire (.dma dmaPtr bytes))).log :=
    Finset.mem_filter.mpr ⟨Finset.mem_insert_self _ _, rfl⟩
  rw [h.dma] at hmem
  exact hfresh (Finset.mem_filter.mp hmem).1

/-- Everything was as before when it came to the backup resource. -/
lemma leaksNothing_of_backup {s' : State} (hs' : Restored s s')
    (heq : s.doAllocate bytes alignment dmaPtr pushed backupPtr =
      s'.allocateBackup bytes alignment backupPtr) :
    LeaksNothing s bytes alignment dmaPtr pushed backupPtr := by
  intro hthrows
  rw [heq] at hthrows ⊢
  rw [State.allocateBackup_throws hthrows]
  exact hs'

/-! ### Every call -/

/-- A call of `do_allocate` that throws leaks nothing, unless it has a chunk that the list cannot
take. What libusb allocates is new. -/
theorem leaksNothing_iff (s : State) (bytes alignment dmaPtr : ℕ) (pushed : Bool)
    (backupPtr : Option ℕ) (hfresh : dmaPtr ≠ 0 → .dma dmaPtr bytes ∉ held s.log) :
    LeaksNothing s bytes alignment dmaPtr pushed backupPtr ↔
      ¬ PushThrows s alignment dmaPtr pushed := by
  by_cases hptr : dmaPtr = 0
  · refine iff_of_true ?_ fun h => h.1.1 hptr
    apply leaksNothing_of_backup (Restored.refl s)
    rw [hptr, s.doAllocate_null]
  have hnew := hfresh hptr
  by_cases hmask : dmaPtr &&& alignmentMask alignment = 0
  · by_cases hlist : s.backupResource = true ∧ pushed = false
    · have hthrows : s.doAllocate bytes alignment dmaPtr pushed backupPtr =
          (s.record (.acquire (.dma dmaPtr bytes)), none) := by
        simp [State.doAllocate, State.record, hptr, hmask, hlist]
      refine iff_of_false ?_ (not_not.mpr ⟨⟨hptr, hmask⟩, hlist⟩)
      rw [LeaksNothing, hthrows]
      exact fun h => not_restored_acquire hnew (h rfl)
    · refine iff_of_true (fun hnone => ?_) fun h => hlist h.2
      -- the chunk is returned
      cases hbackup : s.backupResource <;>
        simp_all [State.doAllocate, State.record]
  · refine iff_of_true ?_ fun h => hmask h.1.2
    apply leaksNothing_of_backup (restored_bounce hnew)
    simp [State.doAllocate, State.bounce, hptr, hmask]

/-- While two chunks are held, libusb gives one that is not aligned, and the backup resource
throws. -/
theorem leaksNothing_no_memory :
    let s : State := { (init true) with
      allocatedDmaChunks := [4096]
      log := [.acquire (.backup 256 64 16), .acquire (.dma 4096 512)] }
    (s.doAllocate 512 64 8200 true none).2 = none ∧ LeaksNothing s 512 64 8200 true none := by
  intro s
  refine ⟨rfl, (leaksNothing_iff s 512 64 8200 true none fun _ => by decide).mpr ?_⟩
  exact fun h => absurd h.1.2 (by decide)

/-- A chunk of 512 bytes is on the page that libusb has mapped, and the vector of chunks cannot
grow. -/
theorem not_leaksNothing_push :
    ¬ ∀ (s : State) (bytes alignment dmaPtr : ℕ) (pushed : Bool) (backupPtr : Option ℕ),
      (dmaPtr ≠ 0 → .dma dmaPtr bytes ∉ held s.log) →
        LeaksNothing s bytes alignment dmaPtr pushed backupPtr := by
  intro h
  have hrestored := h (init true) 512 64 4096 false none (fun _ => by simp [init]) rfl
  have hdma : heldFrom .dma ((init true).doAllocate 512 64 4096 false none).1.log ≠
      heldFrom .dma (init true).log := by decide
  exact hdma hrestored.dma

end UsbAsio.DmaResource
