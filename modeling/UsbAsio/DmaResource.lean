import UsbAsio.Ledger.Basic
import UsbAsio.Transition.Basic

/-!
# The DMA memory resource

`usb_dma_resource` hands out chunks of DMA memory, and falls back on a backup resource, if it has
one. With a backup resource, the list `allocated_dma_chunks_` tells the two kinds of pointers
apart; without one, every pointer handed out is a DMA chunk, and no list is kept. As long as
pushes onto the list succeed, each pointer goes back to where it came from.
-/

namespace UsbAsio.DmaResource

open Ledger Transition

/-- What can be acquired and given back: `libusb_dev_mem_alloc` and `libusb_dev_mem_free` name a
pointer and a size, the backup resource an alignment besides. -/
inductive Chunk where
  | dma (ptr bytes : ℕ)
  | backup (ptr bytes alignment : ℕ)
  deriving DecidableEq

inductive Source where
  | dma
  | backup
  deriving DecidableEq

/-- A pointer that `allocate` has returned, with the arguments of the call and its origin. -/
structure Allocation where
  source : Source
  ptr : ℕ
  bytes : ℕ
  alignment : ℕ
  deriving DecidableEq

def Allocation.chunk (a : Allocation) : Chunk :=
  match a.source with
  | .dma    => .dma a.ptr a.bytes
  | .backup => .backup a.ptr a.bytes a.alignment

structure State where
  /-- Whether `backup_resource_` is not null. -/
  backupResource : Bool
  allocatedDmaChunks : List ℕ := []
  /-- The successful calls to libusb and to the backup resource, latest first. -/
  log : List (Event Chunk) := []
  /-- What the user of the resource has been given and has not given back. -/
  outstanding : Finset Allocation := ∅

def init (backupResource : Bool) : State := { backupResource }

/-- `alignment - 1`, which wraps around at 0. -/
def alignmentMask (alignment : ℕ) : ℕ :=
  if alignment = 0 then 2 ^ 64 - 1 else alignment - 1

namespace State

variable (s : State)

def record (e : Event Chunk) : State := { s with log := e :: s.log }

/-- The user gets a pointer, if there is one. -/
def handOut (a : Option Allocation) : State :=
  { s with outstanding := s.outstanding ∪ a.toFinset }

/-- The user has given a pointer back. -/
def takeBack (ptr : ℕ) : State :=
  { s with outstanding := s.outstanding.filter fun a => a.ptr ≠ ptr }

/-! ### The two functions of the resource -/

/-- The end of `do_allocate`; an answer `none` of the backup resource is an exception. -/
def allocateBackup (bytes alignment : ℕ) (backupPtr : Option ℕ) : State × Option Allocation :=
  if s.backupResource then
    match backupPtr with
    | none     => (s, none)
    | some ptr =>
      (s.record (.acquire (.backup ptr bytes alignment)), some ⟨.backup, ptr, bytes, alignment⟩)
  else (s, none)  -- `std::bad_alloc`

/-- `do_allocate`. The answers from outside are `dmaPtr`, from `libusb_dev_mem_alloc` with 0 for
null, whether the push onto `allocated_dma_chunks_` succeeds, and that of the backup resource. -/
def doAllocate (bytes alignment dmaPtr : ℕ) (pushed : Bool) (backupPtr : Option ℕ) :
    State × Option Allocation :=
  if dmaPtr ≠ 0 then
    let s := s.record (.acquire (.dma dmaPtr bytes))
    if dmaPtr &&& alignmentMask alignment ≠ 0 then
      (s.record (.release (.dma dmaPtr bytes))).allocateBackup bytes alignment backupPtr
    else
      let a : Allocation := ⟨.dma, dmaPtr, bytes, alignment⟩
      if s.backupResource then
        if pushed then
          ({ s with allocatedDmaChunks := s.allocatedDmaChunks ++ [dmaPtr] }, some a)
        else (s, none)
      else (s, some a)
  else s.allocateBackup bytes alignment backupPtr

/-- `do_deallocate`. -/
def doDeallocate (ptr bytes alignment : ℕ) : State :=
  if s.backupResource then
    if ptr ∈ s.allocatedDmaChunks then
      { s with allocatedDmaChunks := s.allocatedDmaChunks.erase ptr }.record
        (.release (.dma ptr bytes))
    else s.record (.release (.backup ptr bytes alignment))
  else s.record (.release (.dma ptr bytes))

end State

/-! ### Runs -/

inductive Action where
  | allocate (bytes alignment dmaPtr : ℕ) (pushed : Bool) (backupPtr : Option ℕ)
  | deallocate (ptr bytes alignment : ℕ)

/-- A call, and what its user has afterwards. -/
def step (s : State) : Action → Option State
  | .allocate bytes alignment dmaPtr pushed backupPtr =>
    let r := s.doAllocate bytes alignment dmaPtr pushed backupPtr
    some (r.1.handOut r.2)
  | .deallocate ptr bytes alignment => some ((s.doDeallocate ptr bytes alignment).takeBack ptr)

/-- No pointer outstanding is `ptr`. -/
def State.Fresh (s : State) (ptr : ℕ) : Prop := ∀ a ∈ s.outstanding, a.ptr ≠ ptr

/-- What users, libusb and the backup resource are trusted with: alignments are powers of two,
new pointers are not outstanding, the backup resource honours the alignment, and what is
deallocated is outstanding with this size and this alignment. The push succeeds. -/
def Permitted (s : State) : Action → Prop
  | .allocate _ alignment dmaPtr pushed backupPtr =>
    alignment.isPowerOfTwo ∧ pushed = true ∧ (dmaPtr ≠ 0 → s.Fresh dmaPtr) ∧
      ∀ ptr ∈ backupPtr, alignment ∣ ptr ∧ s.Fresh ptr
  | .deallocate ptr bytes alignment =>
    ∃ a ∈ s.outstanding, a.ptr = ptr ∧ a.bytes = bytes ∧ a.alignment = alignment

instance (s : State) (ptr : ℕ) : Decidable (s.Fresh ptr) :=
  inferInstanceAs (Decidable (∀ _ ∈ _, _))

instance (s : State) (act : Action) : Decidable (Permitted s act) :=
  match act with
  | .allocate _ _ _ _ _  => inferInstanceAs (Decidable (_ ∧ _ ∧ _ ∧ _))
  | .deallocate _ _ _    => inferInstanceAs (Decidable (∃ _ ∈ _, _))

/-- The books: what has been acquired and not released is what is outstanding, nothing is released
that was not acquired like this or acquired twice, and what is outstanding is aligned. -/
structure Booked (log : List (Event Chunk)) (outstanding : Finset Allocation) : Prop where
  aligned : ∀ a ∈ outstanding, a.alignment ∣ a.ptr
  legal : Legal log
  fresh : Ledger.Fresh log
  held : held log = outstanding.image Allocation.chunk
  unique : ∀ a ∈ outstanding, ∀ b ∈ outstanding, a.ptr = b.ptr → a = b

/-- The list holds the DMA pointers that are outstanding, each once. -/
structure Listed (chunks : List ℕ) (outstanding : Finset Allocation) : Prop where
  nodup : chunks.Nodup
  mem_iff : ∀ ptr, ptr ∈ chunks ↔ ∃ a ∈ outstanding, a.source = .dma ∧ a.ptr = ptr

/-- The books are right, and so is the list when there is a backup resource; every chunk has been
given back once, unless it is outstanding. -/
structure Routed (s : State) : Prop where
  booked : Booked s.log s.outstanding
  listed : s.backupResource = true → Listed s.allocatedDmaChunks s.outstanding
  once : ∀ c, s.log.count (.acquire c) =
    s.log.count (.release c) + if c ∈ s.outstanding.image Allocation.chunk then 1 else 0

/-- What a call answers. `allocate` returns what was asked for; a DMA chunk that is not aligned
is freed at once, and what is returned then is from the backup resource. `deallocate` is a single
release, of the chunk that the pointer was returned for. -/
def Settled (s : State) : Action → Prop
  | .allocate bytes alignment dmaPtr pushed backupPtr =>
    let r := s.doAllocate bytes alignment dmaPtr pushed backupPtr
    (∀ a ∈ r.2, a.bytes = bytes ∧ a.alignment = alignment ∧ alignment ∣ a.ptr) ∧
      (dmaPtr ≠ 0 → ¬ alignment ∣ dmaPtr →
        .release (.dma dmaPtr bytes) :: .acquire (.dma dmaPtr bytes) :: s.log <:+ r.1.log ∧
          .dma dmaPtr bytes ∉ held r.1.log ∧ ∀ a ∈ r.2, a.source = .backup)
  | .deallocate ptr bytes alignment =>
    ∃ a ∈ s.outstanding, a.ptr = ptr ∧ a.bytes = bytes ∧ a.alignment = alignment ∧
      (s.doDeallocate ptr bytes alignment).log = .release a.chunk :: s.log

/-! ### The alignment test -/

/-- The mask of a power of two tests divisibility. -/
lemma and_alignmentMask_eq_zero_iff {alignment : ℕ} (h : alignment.isPowerOfTwo) (ptr : ℕ) :
    ptr &&& alignmentMask alignment = 0 ↔ alignment ∣ ptr := by
  obtain ⟨k, rfl⟩ := h
  rw [alignmentMask, if_neg (Nat.two_pow_pos k).ne', Nat.and_two_pow_sub_one_eq_mod,
    Nat.dvd_iff_mod_eq_zero]

/-! ### The books -/

def Chunk.ptr : Chunk → ℕ
  | .dma ptr _      => ptr
  | .backup ptr _ _ => ptr

@[simp] lemma Allocation.chunk_ptr (a : Allocation) : a.chunk.ptr = a.ptr := by
  cases h : a.source <;> simp [Allocation.chunk, Chunk.ptr, h]

section Booked

variable {log : List (Event Chunk)} {outstanding : Finset Allocation} {a : Allocation}

lemma booked_nil : Booked [] ∅ := by
  constructor <;> simp [Legal, Ledger.Fresh]

/-- A pointer that is not outstanding is on no chunk that is held. -/
lemma Booked.not_held (h : Booked log outstanding) {c : Chunk}
    (hfresh : ∀ a ∈ outstanding, a.ptr ≠ c.ptr) : c ∉ Ledger.held log := by
  rw [h.held, Finset.mem_image]
  rintro ⟨a, ha, rfl⟩
  exact hfresh a ha a.chunk_ptr.symm

lemma Booked.acquire (h : Booked log outstanding) (hfresh : ∀ b ∈ outstanding, b.ptr ≠ a.ptr)
    (haligned : a.alignment ∣ a.ptr) :
    Booked (.acquire a.chunk :: log) (outstanding ∪ {a}) := by
  have hnew : a.chunk ∉ Ledger.held log :=
    h.not_held fun b hb => by rw [a.chunk_ptr]; exact hfresh b hb
  refine ⟨?_, h.legal, ⟨hnew, h.fresh⟩, ?_, ?_⟩
  · intro b hb
    rcases Finset.mem_union.mp hb with hb | hb
    · exact h.aligned b hb
    · rw [Finset.mem_singleton.mp hb]
      exact haligned
  · rw [held_acquire, h.held, Finset.image_union, Finset.image_singleton, Finset.insert_eq,
      Finset.union_comm]
  · intro b hb c hc hptr
    simp only [Finset.mem_union, Finset.mem_singleton] at hb hc
    rcases hb with hb | rfl <;> rcases hc with hc | rfl
    · exact h.unique b hb c hc hptr
    · exact absurd hptr (hfresh b hb)
    · exact absurd hptr.symm (hfresh c hc)
    · rfl

/-- A chunk that nobody has been given is freed. -/
lemma Booked.bounce (h : Booked log outstanding) {c : Chunk} (hfresh : c ∉ Ledger.held log) :
    Booked (.release c :: .acquire c :: log) outstanding := by
  refine ⟨h.aligned, ⟨Finset.mem_insert_self _ _, h.legal⟩, ⟨hfresh, h.fresh⟩, ?_, h.unique⟩
  rw [held_release, held_acquire, Finset.erase_insert hfresh, h.held]

lemma Booked.release (h : Booked log outstanding) (ha : a ∈ outstanding) :
    Booked (.release a.chunk :: log) (outstanding.filter fun b => b.ptr ≠ a.ptr) := by
  have hmem : ∀ {b}, b ∈ outstanding.filter (fun b => b.ptr ≠ a.ptr) → b ∈ outstanding :=
    fun hb => (Finset.mem_filter.mp hb).1
  have hheld : a.chunk ∈ Ledger.held log := by
    rw [h.held]
    exact Finset.mem_image_of_mem _ ha
  refine ⟨fun b hb => h.aligned b (hmem hb), ⟨hheld, h.legal⟩, h.fresh, ?_,
    fun b hb c hc => h.unique b (hmem hb) c (hmem hc)⟩
  rw [held_release, h.held]
  ext c
  simp only [Finset.mem_erase, Finset.mem_image, Finset.mem_filter]
  constructor
  · rintro ⟨hne, b, hb, rfl⟩
    refine ⟨b, ⟨hb, fun hptr => hne ?_⟩, rfl⟩
    rw [h.unique b hb a ha hptr]
  · rintro ⟨b, ⟨hb, hptr⟩, rfl⟩
    refine ⟨fun hchunk => hptr ?_, b, hb, rfl⟩
    rw [← b.chunk_ptr, hchunk, a.chunk_ptr]

end Booked

/-! ### The list -/

section Listed

variable {chunks : List ℕ} {outstanding : Finset Allocation} {a : Allocation}

lemma Listed.push (h : Listed chunks outstanding) (hsource : a.source = .dma)
    (hfresh : ∀ b ∈ outstanding, b.ptr ≠ a.ptr) :
    Listed (chunks ++ [a.ptr]) (outstanding ∪ {a}) := by
  have hnew : a.ptr ∉ chunks := by
    rw [h.mem_iff]
    rintro ⟨b, hb, -, hptr⟩
    exact hfresh b hb hptr
  constructor
  · rw [List.nodup_append]
    refine ⟨h.nodup, List.nodup_singleton _, ?_⟩
    intro p hp q hq
    rw [List.mem_singleton.mp hq]
    rintro rfl
    exact hnew hp
  · intro ptr
    rw [List.mem_append, List.mem_singleton, h.mem_iff, @eq_comm _ ptr]
    simp [or_and_right, exists_or, hsource, or_comm]

/-- A pointer of the backup resource is not listed. -/
lemma Listed.keep (h : Listed chunks outstanding) (hsource : a.source = .backup) :
    Listed chunks (outstanding ∪ {a}) := by
  refine ⟨h.nodup, ?_⟩
  intro ptr
  simp [h.mem_iff, or_and_right, exists_or, hsource]

/-- The pointer that goes back leaves the list, if it is there. -/
lemma Listed.erase (h : Listed chunks outstanding) (ptr : ℕ) :
    Listed (chunks.erase ptr) (outstanding.filter fun b => b.ptr ≠ ptr) := by
  refine ⟨h.nodup.erase ptr, ?_⟩
  intro q
  rw [h.nodup.mem_erase_iff, h.mem_iff]
  simp only [Finset.mem_filter]
  constructor
  · rintro ⟨hne, b, hb, hsource, rfl⟩
    exact ⟨b, ⟨hb, hne⟩, hsource, rfl⟩
  · rintro ⟨b, ⟨hb, hne⟩, hsource, rfl⟩
    exact ⟨hne, b, hb, hsource, rfl⟩

end Listed

/-! ### The invariant -/

/-- Without a backup resource every pointer is a DMA chunk. -/
structure Inv (s : State) : Prop where
  booked : Booked s.log s.outstanding
  listed : s.backupResource = true → Listed s.allocatedDmaChunks s.outstanding
  direct : s.backupResource = false → ∀ a ∈ s.outstanding, a.source = .dma

lemma inv_init (backupResource : Bool) : Inv (init backupResource) where
  booked := booked_nil
  listed := fun _ => ⟨List.nodup_nil, by simp [init]⟩
  direct := fun _ _ ha => by simp [init] at ha

variable {s : State}

lemma Inv.routed (h : Inv s) : Routed s := by
  refine ⟨h.booked, h.listed, ?_⟩
  intro c
  rw [← h.booked.held]
  exact count_acquire h.booked.legal h.booked.fresh c

/-- The list answers where a pointer comes from. -/
lemma Inv.mem_chunks_iff (h : Inv s) (hbackup : s.backupResource = true) {a : Allocation}
    (ha : a ∈ s.outstanding) : a.ptr ∈ s.allocatedDmaChunks ↔ a.source = .dma := by
  rw [(h.listed hbackup).mem_iff]
  constructor
  · rintro ⟨b, hb, hsource, hptr⟩
    rwa [← h.booked.unique b hb a ha hptr]
  · intro hsource
    exact ⟨a, ha, hsource, rfl⟩

/-! ### Deallocation -/

/-- What `do_deallocate` does with a pointer that is outstanding. -/
lemma Inv.doDeallocate_eq (h : Inv s) {a : Allocation} (ha : a ∈ s.outstanding) :
    s.doDeallocate a.ptr a.bytes a.alignment =
      { s with
        allocatedDmaChunks :=
          if s.backupResource then s.allocatedDmaChunks.erase a.ptr else s.allocatedDmaChunks
        log := .release a.chunk :: s.log } := by
  cases hbackup : s.backupResource with
  | false =>
    have hsource := h.direct hbackup a ha
    simp [State.doDeallocate, State.record, hbackup, Allocation.chunk, hsource]
  | true =>
    have hmem := h.mem_chunks_iff hbackup ha
    cases hsource : a.source with
    | dma =>
      have hin := hmem.mpr hsource
      simp [State.doDeallocate, State.record, hbackup, Allocation.chunk, hsource, hin]
    | backup =>
      have hout : a.ptr ∉ s.allocatedDmaChunks := by simp [hmem, hsource]
      simp [State.doDeallocate, State.record, hbackup, Allocation.chunk, hsource, hout,
        List.erase_of_not_mem]

lemma Inv.deallocate (h : Inv s) {a : Allocation} (ha : a ∈ s.outstanding) :
    Inv ((s.doDeallocate a.ptr a.bytes a.alignment).takeBack a.ptr) := by
  rw [h.doDeallocate_eq ha]
  refine ⟨h.booked.release ha, ?_, ?_⟩
  · intro hbackup
    have hbackup' : s.backupResource = true := hbackup
    simpa [State.takeBack, hbackup'] using (h.listed hbackup).erase a.ptr
  · intro hbackup b hb
    exact h.direct hbackup b (Finset.mem_filter.mp hb).1

/-! ### Allocation -/

/-- The backup resource is asked if there is one, and may refuse. -/
lemma State.allocateBackup_cases (s : State) (bytes alignment : ℕ) (backupPtr : Option ℕ) :
    s.allocateBackup bytes alignment backupPtr = (s, none) ∨
      ∃ ptr, backupPtr = some ptr ∧ s.backupResource = true ∧
        s.allocateBackup bytes alignment backupPtr =
          (s.record (.acquire (.backup ptr bytes alignment)),
            some ⟨.backup, ptr, bytes, alignment⟩) := by
  cases hbackup : s.backupResource with
  | false => simp [State.allocateBackup, hbackup]
  | true =>
    cases backupPtr with
    | none => simp [State.allocateBackup, hbackup]
    | some ptr => exact Or.inr ⟨ptr, rfl, rfl, by simp [State.allocateBackup, hbackup]⟩

/-- A chunk that is not aligned has come and gone. -/
def State.bounce (s : State) (dmaPtr bytes : ℕ) : State :=
  (s.record (.acquire (.dma dmaPtr bytes))).record (.release (.dma dmaPtr bytes))

/-- Without a DMA chunk everything is up to the backup resource. -/
lemma State.doAllocate_null (s : State) (bytes alignment : ℕ) (pushed : Bool)
    (backupPtr : Option ℕ) :
    s.doAllocate bytes alignment 0 pushed backupPtr =
      s.allocateBackup bytes alignment backupPtr := by
  simp [State.doAllocate]

lemma State.doAllocate_of_not_dvd (s : State) (bytes : ℕ) {alignment dmaPtr : ℕ} (pushed : Bool)
    (backupPtr : Option ℕ) (hpow : alignment.isPowerOfTwo) (hptr : dmaPtr ≠ 0)
    (hdvd : ¬ alignment ∣ dmaPtr) :
    s.doAllocate bytes alignment dmaPtr pushed backupPtr =
      (s.bounce dmaPtr bytes).allocateBackup bytes alignment backupPtr := by
  have hmask : dmaPtr &&& alignmentMask alignment ≠ 0 := fun h =>
    hdvd ((and_alignmentMask_eq_zero_iff hpow dmaPtr).mp h)
  simp [State.doAllocate, State.bounce, hptr, hmask]

lemma State.doAllocate_of_dvd (s : State) (bytes : ℕ) {alignment dmaPtr : ℕ}
    (backupPtr : Option ℕ) (hpow : alignment.isPowerOfTwo) (hptr : dmaPtr ≠ 0)
    (hdvd : alignment ∣ dmaPtr) :
    s.doAllocate bytes alignment dmaPtr true backupPtr =
      ({ s with
          allocatedDmaChunks :=
            if s.backupResource then s.allocatedDmaChunks ++ [dmaPtr] else s.allocatedDmaChunks
          log := .acquire (.dma dmaPtr bytes) :: s.log },
        some ⟨.dma, dmaPtr, bytes, alignment⟩) := by
  have hmask : dmaPtr &&& alignmentMask alignment = 0 :=
    (and_alignmentMask_eq_zero_iff hpow dmaPtr).mpr hdvd
  cases hbackup : s.backupResource <;>
    simp [State.doAllocate, State.record, hptr, hmask, hbackup]

lemma State.handOut_none (s : State) : s.handOut none = s := by
  simp [State.handOut]

lemma Inv.bounce (h : Inv s) {dmaPtr : ℕ} (hfresh : s.Fresh dmaPtr) (bytes : ℕ) :
    Inv (s.bounce dmaPtr bytes) :=
  ⟨h.booked.bounce (h.booked.not_held hfresh), h.listed, h.direct⟩

lemma Inv.allocateBackup (h : Inv s) (bytes : ℕ) {alignment : ℕ} {backupPtr : Option ℕ}
    (hptr : ∀ ptr ∈ backupPtr, alignment ∣ ptr ∧ s.Fresh ptr) :
    let r := s.allocateBackup bytes alignment backupPtr
    Inv (r.1.handOut r.2) := by
  intro r
  rcases s.allocateBackup_cases bytes alignment backupPtr with heq | ⟨ptr, rfl, hbackup, heq⟩
  · simpa [r, heq, State.handOut_none] using h
  · obtain ⟨hdvd, hfresh⟩ := hptr ptr rfl
    let a : Allocation := ⟨.backup, ptr, bytes, alignment⟩
    have hbooked : Booked (.acquire a.chunk :: s.log) (s.outstanding ∪ {a}) :=
      h.booked.acquire hfresh hdvd
    have hlisted : Listed s.allocatedDmaChunks (s.outstanding ∪ {a}) :=
      (h.listed hbackup).keep rfl
    have hr : r = (s.record (.acquire a.chunk), some a) := heq
    rw [hr]
    refine ⟨hbooked, fun _ => hlisted, ?_⟩
    intro hnone
    have hnone' : s.backupResource = false := hnone
    simp [hbackup] at hnone'

lemma Inv.allocateDma (h : Inv s) (bytes : ℕ) {alignment dmaPtr : ℕ} (hfresh : s.Fresh dmaPtr)
    (hdvd : alignment ∣ dmaPtr) :
    Inv (State.handOut
      { s with
        allocatedDmaChunks :=
          if s.backupResource then s.allocatedDmaChunks ++ [dmaPtr] else s.allocatedDmaChunks
        log := .acquire (.dma dmaPtr bytes) :: s.log }
      (some ⟨.dma, dmaPtr, bytes, alignment⟩)) := by
  let a : Allocation := ⟨.dma, dmaPtr, bytes, alignment⟩
  have hbooked : Booked (.acquire a.chunk :: s.log) (s.outstanding ∪ {a}) :=
    h.booked.acquire hfresh hdvd
  refine ⟨hbooked, ?_, ?_⟩
  · intro hbackup
    have hbackup' : s.backupResource = true := hbackup
    have hlisted : Listed (s.allocatedDmaChunks ++ [dmaPtr]) (s.outstanding ∪ {a}) :=
      Listed.push (a := a) (h.listed hbackup') rfl hfresh
    simpa [State.handOut, hbackup'] using hlisted
  · intro hbackup b hb
    rcases Finset.mem_union.mp hb with hb | hb
    · exact h.direct hbackup b hb
    · have hba : b = a := by simpa using hb
      rw [hba]

/-! ### Steps -/

lemma Inv.of_step {t : State} {act : Action} (h : Inv s) (hperm : Permitted s act)
    (ht : step s act = some t) : Inv t := by
  cases act with
  | deallocate ptr bytes alignment =>
    obtain ⟨a, ha, rfl, rfl, rfl⟩ := hperm
    obtain rfl := Option.some.inj ht
    exact h.deallocate ha
  | allocate bytes alignment dmaPtr pushed backupPtr =>
    obtain ⟨hpow, rfl, hfresh, hbackup⟩ := hperm
    rw [step, Option.some.injEq] at ht
    rw [← ht]
    by_cases hptr : dmaPtr = 0
    · rw [hptr, s.doAllocate_null]
      exact h.allocateBackup bytes hbackup
    by_cases hdvd : alignment ∣ dmaPtr
    · rw [s.doAllocate_of_dvd bytes backupPtr hpow hptr hdvd]
      exact h.allocateDma bytes (hfresh hptr) hdvd
    · rw [s.doAllocate_of_not_dvd bytes true backupPtr hpow hptr hdvd]
      exact (h.bounce (hfresh hptr) bytes).allocateBackup bytes hbackup

/-! ### Answers -/

/-- The backup resource hands out its own pointer or none. -/
lemma State.allocateBackup_answer (s : State) (bytes : ℕ) {alignment : ℕ} {backupPtr : Option ℕ}
    (hptr : ∀ ptr ∈ backupPtr, alignment ∣ ptr) :
    ∀ a ∈ (s.allocateBackup bytes alignment backupPtr).2,
      a.source = .backup ∧ a.bytes = bytes ∧ a.alignment = alignment ∧ alignment ∣ a.ptr := by
  intro a ha
  rcases s.allocateBackup_cases bytes alignment backupPtr with heq | ⟨ptr, rfl, -, heq⟩
  · simp [heq] at ha
  · rw [heq, Option.mem_some_iff] at ha
    rw [← ha]
    exact ⟨rfl, rfl, rfl, hptr ptr rfl⟩

/-- Asking the backup resource releases nothing, and acquires no DMA chunk. -/
lemma State.allocateBackup_log (s : State) (bytes alignment : ℕ) (backupPtr : Option ℕ) :
    let r := s.allocateBackup bytes alignment backupPtr
    s.log <:+ r.1.log ∧ ∀ ptr n, .dma ptr n ∉ held s.log → .dma ptr n ∉ held r.1.log := by
  intro r
  rcases s.allocateBackup_cases bytes alignment backupPtr with heq | ⟨ptr, -, -, heq⟩
  · have hr : r.1 = s := by simp [r, heq]
    rw [hr]
    exact ⟨List.suffix_rfl, fun _ _ h => h⟩
  · have hr : r.1 = s.record (.acquire (.backup ptr bytes alignment)) := by simp [r, heq]
    rw [hr]
    refine ⟨List.suffix_cons _ _, ?_⟩
    intro p n h
    simpa [State.record] using h

lemma Inv.settled {act : Action} (h : Inv s) (hperm : Permitted s act) : Settled s act := by
  cases act with
  | deallocate ptr bytes alignment =>
    obtain ⟨a, ha, rfl, rfl, rfl⟩ := hperm
    refine ⟨a, ha, rfl, rfl, rfl, ?_⟩
    rw [h.doDeallocate_eq ha]
  | allocate bytes alignment dmaPtr pushed backupPtr =>
    obtain ⟨hpow, rfl, hfresh, hbackup⟩ := hperm
    have hdvd' : ∀ ptr ∈ backupPtr, alignment ∣ ptr := fun ptr hp => (hbackup ptr hp).1
    by_cases hptr : dmaPtr = 0
    · refine ⟨?_, fun hne => absurd hptr hne⟩
      intro a ha
      rw [hptr, s.doAllocate_null] at ha
      exact (s.allocateBackup_answer bytes hdvd' a ha).2
    by_cases hdvd : alignment ∣ dmaPtr
    · refine ⟨?_, fun _ hnot => absurd hdvd hnot⟩
      intro a ha
      rw [s.doAllocate_of_dvd bytes backupPtr hpow hptr hdvd, Option.mem_some_iff] at ha
      rw [← ha]
      exact ⟨rfl, rfl, hdvd⟩
    · have heq := s.doAllocate_of_not_dvd bytes true backupPtr hpow hptr hdvd
      have hanswer := (s.bounce dmaPtr bytes).allocateBackup_answer bytes hdvd'
      obtain ⟨hlog, hheld⟩ := (s.bounce dmaPtr bytes).allocateBackup_log bytes alignment backupPtr
      rw [Settled, heq]
      refine ⟨fun a ha => (hanswer a ha).2, fun _ _ => ⟨hlog, ?_, fun a ha => (hanswer a ha).1⟩⟩
      exact hheld dmaPtr bytes (by simp [State.bounce, State.record])

/-! ### All runs -/

/-- On every run within the assumptions, all pointers are routed in every state, and every call
settles what it is asked for. -/
theorem routed_of_permitted (backupResource : Bool) (as : List Action)
    (h : Along step Permitted (init backupResource) as) :
    Always step Routed (init backupResource) as ∧ Along step Settled (init backupResource) as := by
  have hstep : ∀ s act t, Inv s → Permitted s act → step s act = some t → Inv t :=
    fun _ _ _ hs hperm ht => hs.of_step hperm ht
  have hinit := inv_init backupResource
  constructor
  · exact always_of_invariant hstep (fun _ hs => hs.routed) hinit h
  · exact along_of_invariant hstep (fun _ _ _ hs hperm _ => hs.settled hperm) hinit h

/-- A DMA chunk, a chunk that is not aligned and is replaced, a pointer from the backup resource
alone, all given back; the backup resource reuses the address of the first chunk. -/
theorem routed_mixed :
    let as : List Action := [.allocate 512 64 4096 true none, .allocate 64 16 8200 true (some 256),
      .deallocate 4096 512 64, .allocate 32 8 0 true (some 4096), .deallocate 256 64 16,
      .deallocate 4096 32 8]
    (exec step (init true) as).isSome ∧ Always step Routed (init true) as :=
  ⟨by decide, (routed_of_permitted true _ (by decide)).1⟩

end UsbAsio.DmaResource
