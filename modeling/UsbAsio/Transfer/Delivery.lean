import UsbAsio.Memory.Blocks
import UsbAsio.Transfer.Direction
import UsbAsio.Transfer.Matched

/-!
# The bytes that a handler finds

What `async_read_some` and `async_write_some` are for, on transfers whose result is a number of
bytes. When the operations are started in turn and the program leaves the buffer of an operation
alone until its handler runs, the handler of a read is told how many bytes the device has sent, and
finds them at the start of its buffer, and behind them what the caller left there; the handler of a
write is told how many bytes of its buffer, as the caller left it, the device has taken.
-/

namespace UsbAsio.Transfer.Delivery

open Memory Transition

/-- A transfer and the memory of the process, and for each operation that libusb has completed the
direction in which it moved bytes, and the bytes. -/
structure World where
  base : Direction.World ℕ
  moved : ℕ → Option (UsbTransferDirection × List UInt8)
  /-- The memory as it was when an operation was called. -/
  found : ℕ → ℕ → UInt8

def init (memory : ℕ → UInt8) : World :=
  ⟨Direction.init ℕ memory, fun _ => none, fun _ => memory⟩

namespace World

variable (w : World)

def transfer : State ℕ := w.base.started.transfer

def calls : List Deferred.Call := w.base.started.calls

def memory : ℕ → UInt8 := w.base.memory

end World

inductive Action where
  /-- The program writes to its memory. -/
  | write (addr : ℕ) (byte : UInt8)
  | base (a : Direction.Action ℕ)

/-- What libusb moves in a completion: `data` from the device, or as many bytes of the buffer. -/
def exchange (t : LibusbTransfer) (args : Args) (data : List UInt8) (memory : ℕ → UInt8) :
    UsbTransferDirection × List UInt8 :=
  (Direction.directionOf t,
    if Direction.deviceToHost t then data else cellsAt memory args.buffer data.length)

/-- One step; `actual_length` is the number of bytes that have been moved. -/
def step (direction : UsbTransferDirection) (t : LibusbTransfer) (w : World) :
    Action → Option World
  | .write addr byte                       =>
    some { w with base := { w.base with memory := Function.update w.memory addr byte } }
  | .base (.complete status result data)   =>
    match w.transfer.inFlight with
    | none     => none
    | some sub =>
      if result = data.length then
        (Direction.step direction t w.base (.complete status result data)).map fun base =>
          { w with
            base := base
            moved := Function.update w.moved sub.op (some (exchange t sub.args data w.memory)) }
      else none
  | .base (.call c)                        =>
    (Direction.step direction t w.base (.call c)).map fun base =>
      { w with base := base, found := Function.update w.found w.calls.length w.memory }
  | .base a                                =>
    (Direction.step direction t w.base a).map fun base => { w with base := base }

/-! ### The condition and the property -/

/-- The program starts its operations in turn, and does not write to the buffer of an operation
whose handler has not begun to run. -/
def Careful (w : World) : Action → Prop
  | .write addr _   => ∀ p ∈ w.calls.zipIdx, (w.transfer.ops p.2).begun = false →
    addr ∉ Direction.bytesOf p.1.buffer
  | .base (.call c) => InTurn w.transfer (.call c.args)
  | .base _         => True

instance (w : World) (a : Action) : Decidable (Careful w a) :=
  match a with
  | .write addr _   => inferInstanceAs (Decidable (∀ p ∈ w.calls.zipIdx,
    (w.transfer.ops p.2).begun = false → addr ∉ Direction.bytesOf p.1.buffer))
  | .base (.call c) => inferInstanceAs (Decidable (InTurn w.transfer (.call c.args)))
  | .base (.other _) | .base (.complete _ _ _) => isTrue trivial

/-- From the address `start` on, the buffer of an operation is as the caller left it. -/
def World.Untouched (w : World) (op : ℕ) (c : Deferred.Call) (start : ℕ) : Prop :=
  ∀ addr ∈ Direction.bytesOf c.buffer, start ≤ addr → w.memory addr = w.found op addr

/-- What is known of an operation with an outcome: libusb refused it, or its bytes are those at the
start of its buffer, and the result is their number. Only what has been read is new. -/
def Settled (direction : UsbTransferDirection) (w : World) (op : ℕ) (c : Deferred.Call)
    (o : Outcome ℕ) : Prop :=
  w.moved op = none ∧ o.ec.isError = true ∧ o.result = 0 ∧ w.Untouched op c 0 ∨
    ∃ bytes, w.moved op = some (direction, bytes) ∧ o.result = bytes.length ∧
      bytes.length ≤ c.buffer.size ∧ cellsAt w.memory c.buffer.data bytes.length = bytes ∧
      w.Untouched op c (if direction = .«in» then c.buffer.data + bytes.length else 0)

/-- A handler that begins to run has been posted once, with the result of its own operation; a
completion changes nothing outside the buffer of its operation. -/
def Delivers (direction : UsbTransferDirection) (t : LibusbTransfer) (w : World) : Action → Prop
  | .base (.other (.runHandler op)) => ∃ c o, w.calls[op]? = some c ∧
    (w.transfer.ops op).posted = [o] ∧ Settled direction w op c o
  | .base (.complete _ _ data)      => ∃ sub c, w.transfer.inFlight = some sub ∧
    w.calls[sub.op]? = some c ∧ ∀ addr, addr ∉ Direction.bytesOf c.buffer →
      Direction.received t sub.args data w.memory addr = w.memory addr
  | _                               => True

/-! ### Memory -/

variable {t : LibusbTransfer} {args : Args} {data : List UInt8} {memory : ℕ → UInt8}

lemma received_of_deviceToHost (hhost : Direction.deviceToHost t = true) :
    Direction.received t args data memory = store memory args.buffer data := by
  rw [Direction.received, if_pos hhost]
  rfl

/-- What a completion has moved is at the start of the buffer afterwards, in both directions. -/
lemma cellsAt_received :
    cellsAt (Direction.received t args data memory) args.buffer data.length =
      (exchange t args data memory).2 := by
  cases hhost : Direction.deviceToHost t with
  | false => simp [exchange, Direction.received, hhost]
  | true => simp [exchange, received_of_deviceToHost hhost, hhost, cellsAt_store]

lemma length_exchange : (exchange t args data memory).2.length = data.length := by
  unfold exchange
  split_ifs
  · rfl
  · exact length_cellsAt _ _ _

/-- Nothing changes outside the bytes that are moved. -/
lemma received_of_notMem {addr : ℕ} {b : Buffer} (hbuffer : args.buffer = b.data)
    (hle : data.length ≤ b.size) (haddr : addr ∉ Direction.bytesOf b) :
    Direction.received t args data memory addr = memory addr := by
  rw [Direction.bytesOf, Finset.mem_Ico, not_and_or, not_le, not_lt] at haddr
  cases hhost : Direction.deviceToHost t with
  | false => simp [Direction.received, hhost]
  | true =>
    rw [received_of_deviceToHost hhost]
    exact store_of_outside (by omega)

/-- A length that is narrowed does not get longer. -/
lemma toInt32_le (n : ℕ) : toInt32 n ≤ n := by
  rw [toInt32, Int.bmod_def]
  split_ifs <;> omega

/-- A read or a write derives its arguments from its buffer. -/
lemma args_of_requires {c : Deferred.Call} {direction : UsbTransferDirection}
    (h : Direction.requires c = some direction) : c.args.buffer = c.buffer.data ∧
      c.args.length ≤ c.buffer.size := by
  cases c with
  | asyncReadSome b | asyncWriteSome b =>
    simpa [Deferred.Call.args, Deferred.Call.buffer, asyncReadSome, asyncWriteSome] using
      toInt32_le b.size
  | asyncControl r b => cases h

/-! ### What the steps do -/

/-- The transfer has come to `s`. -/
def World.advance (w : World) (s : State ℕ) : World :=
  { w with base := ⟨⟨s, w.calls⟩, w.memory⟩ }

/-- The transfer has come to `s` with one more call. -/
def World.called (w : World) (s : State ℕ) (c : Deferred.Call) : World where
  base := ⟨⟨s, w.calls ++ [c]⟩, w.memory⟩
  moved := w.moved
  found := Function.update w.found w.calls.length w.memory

/-- The transfer has come to `s` with a completion of `sub` that has moved `data`. -/
def World.completed (w : World) (t : LibusbTransfer) (s : State ℕ) (sub : Submission)
    (data : List UInt8) : World where
  base := ⟨⟨s, w.calls⟩, Direction.received t sub.args data w.memory⟩
  moved := Function.update w.moved sub.op (some (exchange t sub.args data w.memory))
  found := w.found

inductive Rule (direction : UsbTransferDirection) (t : LibusbTransfer) (w : World) :
    Action → World → Prop where
  | write (addr : ℕ) (byte : UInt8) : Rule direction t w (.write addr byte)
      { w with base := { w.base with memory := Function.update w.memory addr byte } }
  | call (c : Deferred.Call) (s : State ℕ) (hrequires : Direction.requires c = some direction)
      (hstep : Transfer.step w.transfer (.call c.args) = some s) :
      Rule direction t w (.base (.call c)) (w.called s c)
  | other (a : Transfer.Action ℕ) (s : State ℕ) (hcall : ∀ args, a ≠ .call args)
      (hcomplete : ∀ status result, a ≠ .complete status result)
      (hstep : Transfer.step w.transfer a = some s) :
      Rule direction t w (.base (.other a)) (w.advance s)
  | complete (status : ℤ) (data : List UInt8) (sub : Submission) (s : State ℕ)
      (hfly : w.transfer.inFlight = some sub) (hlength : data.length ≤ sub.args.length)
      (hstep : Transfer.step w.transfer (.complete status data.length) = some s) :
      Rule direction t w (.base (.complete status data.length data)) (w.completed t s sub data)

variable {direction : UsbTransferDirection} {w w' : World}

lemma Rule.of_step {a : Action} (h : step direction t w a = some w') : Rule direction t w a w' := by
  cases a with
  | write addr byte =>
    cases h
    exact .write addr byte
  | base a =>
    cases a with
    | call c =>
      obtain ⟨base, hbase, rfl⟩ := Option.map_eq_some_iff.mp h
      obtain ⟨hrequires, hbase⟩ := Option.ite_none_right_eq_some.mp hbase
      obtain ⟨started, hstarted, rfl⟩ := Option.map_eq_some_iff.mp hbase
      obtain ⟨s, hs, rfl⟩ := Option.map_eq_some_iff.mp hstarted
      exact .call c s hrequires hs
    | other a =>
      obtain ⟨base, hbase, rfl⟩ := Option.map_eq_some_iff.mp h
      cases a with
      | complete => cases hbase
      | call => simp [Direction.step, Deferred.step] at hbase
      | initiate | submit | postError | resetError | cancel | postResult | resetSlot
      | runHandler =>
        obtain ⟨started, hstarted, rfl⟩ := Option.map_eq_some_iff.mp hbase
        obtain ⟨s, hs, rfl⟩ := Option.map_eq_some_iff.mp hstarted
        exact .other _ s (fun _ h => by cases h) (fun _ _ h => by cases h) hs
    | complete status result data =>
      cases hfly : w.transfer.inFlight with
      | none => simp [step, hfly] at h
      | some sub =>
        simp only [step, hfly] at h
        obtain ⟨rfl, h⟩ := Option.ite_none_right_eq_some.mp h
        obtain ⟨base, hbase, rfl⟩ := Option.map_eq_some_iff.mp h
        have hfly' : w.base.started.transfer.inFlight = some sub := hfly
        simp only [Direction.step, hfly'] at hbase
        obtain ⟨hlength, hbase⟩ := Option.ite_none_right_eq_some.mp hbase
        obtain ⟨started, hstarted, rfl⟩ := Option.map_eq_some_iff.mp hbase
        obtain ⟨s, hs, rfl⟩ := Option.map_eq_some_iff.mp hstarted
        exact .complete status data sub s hfly hlength hs

/-! ### The invariant -/

structure Inv (direction : UsbTransferDirection) (w : World) : Prop where
  matched : Matched w.transfer w.calls
  directed : ∀ c ∈ w.calls, Direction.requires c = some direction
  unmoved : ∀ op, (w.transfer.ops op).outcome = none → w.moved op = none
  untouched : ∀ op c, w.calls[op]? = some c → (w.transfer.ops op).outcome = none →
    w.Untouched op c 0
  settled : Settles (Settled direction w) w.transfer w.calls

lemma inv_init (memory : ℕ → UInt8) : Inv direction (init memory) where
  matched := matched_init
  directed := nofun
  unmoved := fun _ _ => rfl
  untouched := nofun
  settled := settles_init

lemma World.Untouched.congr {op : ℕ} {c : Deferred.Call} {start : ℕ} (h : w.Untouched op c start)
    (hfound : w'.found op = w.found op)
    (hmemory : ∀ addr ∈ Direction.bytesOf c.buffer, w'.memory addr = w.memory addr) :
    w'.Untouched op c start := by
  intro addr haddr hle
  rw [hmemory addr haddr, hfound]
  exact h addr haddr hle

/-- The bytes of an operation stay where they are. -/
lemma Settled.congr {op : ℕ} {c : Deferred.Call} {o : Outcome ℕ} (h : Settled direction w op c o)
    (hmoved : w'.moved op = w.moved op) (hfound : w'.found op = w.found op)
    (hmemory : ∀ addr ∈ Direction.bytesOf c.buffer, w'.memory addr = w.memory addr) :
    Settled direction w' op c o := by
  refine h.imp ?_ ?_
  · rintro ⟨hnone, herr, hzero, hrest⟩
    exact ⟨by rwa [hmoved], herr, hzero, hrest.congr hfound hmemory⟩
  · rintro ⟨bytes, hbytes, hresult, hle, hat, hrest⟩
    refine ⟨bytes, by rwa [hmoved], hresult, hle, Eq.trans ?_ hat, hrest.congr hfound hmemory⟩
    refine cellsAt_congr fun addr hlow hhigh => hmemory addr ?_
    exact Finset.mem_Ico.mpr ⟨hlow, by omega⟩

/-! ### One step -/

lemma Inv.write (h : Inv direction w) {addr : ℕ} {byte : UInt8}
    (hcareful : Careful w (.write addr byte)) :
    Inv direction { w with base :=
      { w.base with memory := Function.update w.memory addr byte } } := by
  -- the byte is in no buffer whose handler has not begun
  have hsame : ∀ op c, w.calls[op]? = some c → (w.transfer.ops op).begun = false →
      ∀ addr' ∈ Direction.bytesOf c.buffer,
        Function.update w.memory addr byte addr' = w.memory addr' := by
    intro op c hc hbegun addr' haddr'
    refine Function.update_of_ne ?_ _ _
    rintro rfl
    exact hcareful (c, op) (List.mem_zipIdx_iff_getElem?.mpr hc) hbegun haddr'
  refine ⟨h.matched, h.directed, h.unmoved, fun op c hc hnone => ?_, h.settled.imp ?_⟩
  · exact (h.untouched op c hc hnone).congr rfl (hsame op c hc (h.matched.not_begun hnone))
  · exact fun op c _ hc hbegun hsettled => hsettled.congr rfl rfl (hsame op c hc hbegun)

/-- The new operation finds the memory as it is now, and the others do not notice. -/
lemma Inv.call (h : Inv direction w) {c : Deferred.Call} {s : State ℕ}
    (hturn : InTurn w.transfer (.call c.args)) (hrequires : Direction.requires c = some direction)
    (hstep : Transfer.step w.transfer (.call c.args) = some s) :
    Inv direction (w.called s c) := by
  have hfound : ∀ op, op < w.calls.length → (w.called s c).found op = w.found op :=
    fun op hlt => Function.update_of_ne hlt.ne _ _
  refine ⟨h.matched.call hturn hstep, ?_, ?_, ?_, ?_⟩
  · intro c' hc'
    rcases List.mem_append.mp hc' with hc' | hc'
    · exact h.directed c' hc'
    · rwa [List.mem_singleton.mp hc']
  · exact fun op ho => h.unmoved op (outcome_eq_none_of_step hstep ho)
  · -- an operation finds the memory as it is when it is called
    intro op c' (hc' : (w.calls ++ [c])[op]? = some c') hnone
    by_cases hlt : op < w.calls.length
    · rw [List.getElem?_append_left hlt] at hc'
      exact (h.untouched op c' hc' (outcome_eq_none_of_step hstep hnone)).congr (hfound op hlt)
        fun _ _ => rfl
    · have hle : op < (w.calls ++ [c]).length := (List.getElem?_eq_some_iff.mp hc').1
      have hop : op = w.calls.length := by
        rw [List.length_append, List.length_singleton] at hle
        omega
      intro addr _ _
      show w.memory addr = Function.update w.found w.calls.length w.memory op addr
      rw [hop, Function.update_self]
  · have hsettled := h.settled.call h.matched hstep
    intro op c' o (hc' : (w.calls ++ [c])[op]? = some c') (ho : (s.ops op).outcome = some o) hbegun
    obtain ⟨-, hout⟩ := outcome_step (fun _ _ h => by cases h) (fun _ _ h => by cases h) hstep
    have hlt : op < w.calls.length := by
      have hcount : w.calls.length = w.transfer.nextOp := h.matched.deferred.count
      rw [hcount]
      rw [hout] at ho
      exact h.matched.lt_of_outcome ho
    exact (hsettled op c' o hc' ho hbegun).congr rfl (hfound op hlt) fun _ _ => rfl

lemma Inv.other (h : Inv direction w) {a : Transfer.Action ℕ} {s : State ℕ}
    (hcall : ∀ args, a ≠ .call args) (hcomplete : ∀ status result, a ≠ .complete status result)
    (hstep : Transfer.step w.transfer a = some s) : Inv direction (w.advance s) := by
  have huntouched : ∀ op c, w.calls[op]? = some c → (s.ops op).outcome = none →
      w.Untouched op c 0 :=
    fun op c hc ho => h.untouched op c hc (outcome_eq_none_of_step hstep ho)
  refine ⟨h.matched.step hcall hstep, h.directed,
    fun op ho => h.unmoved op (outcome_eq_none_of_step hstep ho), huntouched, ?_⟩
  have hsettled : Settles (fun op c o => w.calls[op]? = some c → Settled direction w op c o) s
      w.calls := by
    refine Settles.step (fun op c o hc ho hbegun _ => h.settled op c o hc ho hbegun) h.matched
      hcomplete ?_ hstep
    exact fun op c _ ho herr hc => .inl ⟨h.unmoved op ho, herr, rfl, h.untouched op c hc ho⟩
  exact fun op c o hc ho hbegun => (hsettled op c o hc ho hbegun hc).congr rfl rfl fun _ _ => rfl

/-- Only the latest operation can be completed, and its buffer gets what the device sent. -/
lemma Inv.complete (h : Inv direction w) (hdirection : Direction.directionOf t = direction)
    {status : ℤ} {sub : Submission} {s : State ℕ} (hfly : w.transfer.inFlight = some sub)
    (hlength : data.length ≤ sub.args.length)
    (hstep : Transfer.step w.transfer (.complete status data.length) = some s) :
    Inv direction (w.completed t s sub data) := by
  refine ⟨h.matched.step (fun _ h => by cases h) hstep, h.directed, ?_, ?_, ?_⟩
  · intro op (ho : (s.ops op).outcome = none)
    exact (Function.update_of_ne (ne_of_complete hfly hstep ho) _ _).trans
      (h.unmoved op (outcome_eq_none_of_step hstep ho))
  · -- every other operation has an outcome
    intro op c hc (ho : (s.ops op).outcome = none)
    exfalso
    have hne := ne_of_complete hfly hstep ho
    have hnone := outcome_eq_none_of_step hstep ho
    have hlt : op < w.calls.length := (List.getElem?_eq_some_iff.mp hc).1
    have hcount : w.calls.length = w.transfer.nextOp := h.matched.deferred.count
    have hlast := h.matched.turns.last_of_inFlight hfly
    have hbegun := h.matched.turns.begun op (by omega)
    rw [h.matched.not_begun hnone] at hbegun
    cases hbegun
  · refine h.matched.settles_complete hfly hstep fun c hc => ?_
    obtain ⟨hbuffer, hsize⟩ := args_of_requires (h.directed c (List.mem_of_getElem? hc))
    have hargs := h.matched.own sub hfly c hc
    have hfound := h.untouched sub.op c hc
      ((h.matched.turns.known sub.op).inFlight sub.args hfly).2.1
    refine .inr ⟨(exchange t sub.args data w.memory).2, ?_, ?_, ?_, ?_, ?_⟩
    · rw [← hdirection]
      exact Function.update_self ..
    · rw [length_exchange]
    · rw [length_exchange]
      rw [hargs] at hlength
      exact_mod_cast hlength.trans hsize
    · rw [length_exchange, ← hbuffer, ← hargs]
      exact cellsAt_received
    · intro addr haddr hle
      rw [length_exchange] at hle
      refine Eq.trans ?_ (hfound addr haddr (Nat.zero_le _))
      -- a completion writes nothing but what it reads from the device
      show Direction.received t sub.args data w.memory addr = w.memory addr
      cases hhost : Direction.deviceToHost t with
      | false => simp [Direction.received, hhost]
      | true =>
        have hin : direction = .«in» := by rw [← hdirection, Direction.directionOf, if_pos hhost]
        rw [if_pos hin, ← hbuffer, ← hargs] at hle
        rw [received_of_deviceToHost hhost]
        exact store_of_outside (.inr hle)

lemma inv_step {a : Action} (hdirection : Direction.directionOf t = direction)
    (h : Inv direction w) (hcareful : Careful w a) (hstep : step direction t w a = some w') :
    Inv direction w' := by
  cases Rule.of_step hstep with
  | write addr byte => exact h.write hcareful
  | call c s hrequires hs => exact h.call hcareful hrequires hs
  | other a s hcall hcomplete hs => exact h.other hcall hcomplete hs
  | complete status data sub s hfly hlength hs => exact h.complete hdirection hfly hlength hs

/-! ### All runs -/

lemma Inv.delivers_runHandler (h : Inv direction w) {op : ℕ} {s : State ℕ}
    (hstep : Transfer.step w.transfer (.runHandler op) = some s) :
    Delivers direction t w (.base (.other (.runHandler op))) := by
  obtain ⟨-, hbegun, c, o, hc, ho, hposted⟩ := h.matched.runHandler hstep
  exact ⟨c, o, hc, hposted, h.settled op c o hc ho hbegun⟩

lemma Inv.delivers_complete (h : Inv direction w) {status : ℤ} {result : ℕ} {sub : Submission}
    (hfly : w.transfer.inFlight = some sub) (hlength : data.length ≤ sub.args.length) :
    Delivers direction t w (.base (.complete status result data)) := by
  obtain ⟨-, c, hc, hargs⟩ := h.matched.exists_inFlight hfly
  obtain ⟨hbuffer, hsize⟩ := args_of_requires (h.directed c (List.mem_of_getElem? hc))
  rw [← hargs] at hbuffer hsize
  refine ⟨sub, c, hfly, hc, fun addr haddr => ?_⟩
  exact received_of_notMem hbuffer (by exact_mod_cast hlength.trans hsize) haddr

/-- On a transfer whose endpoint has the direction of its class, every handler finds at the start of
its own buffer the bytes that the device and the buffer have exchanged for its operation, as many as
it is told, or is told that libusb has refused the operation; and no completion touches any other
memory. -/
theorem delivers_along {E : Type*} {c₀ : Constructor E} {alloc : Bool} {x : UsbTransfer E}
    (hx : c₀.construct alloc = some x) (hendpoint : c₀.endpoint &&& 0x80 = direction.value)
    (memory : ℕ → UInt8) (as : List Action)
    (hcareful : Along (step direction x.handle) Careful (init memory) as) :
    Along (step direction x.handle) (Delivers direction x.handle) (init memory) as := by
  have hdirection : Direction.directionOf x.handle = direction := by
    rw [Direction.directionOf_eq_iff, Constructor.endpoint_construct hx, hendpoint]
  refine along_of_invariant (fun _ _ _ h hc hs => inv_step hdirection h hc hs) ?_ (inv_init memory)
    hcareful
  intro w a w' h _ hs
  cases Rule.of_step hs with
  | write | call => trivial
  | other a s hcall hcomplete hstep =>
    cases a with
    | runHandler op => exact h.delivers_runHandler hstep
    | _ => trivial
  | complete status data sub s hfly hlength => exact h.delivers_complete hfly hlength

/-- A read of at most four bytes, of which the device sends three. -/
theorem delivers_along_short_read :
    let as : List Action := [.base (.call (.asyncReadSome ⟨4096, 4⟩)), .base (.other (.initiate 0)),
      .write 4100 7, .base (.other (.submit 0 0)), .base (.complete 0 3 [1, 2, 3]), .write 4101 8,
      .base (.other .postResult), .base (.other .resetSlot), .base (.other (.runHandler 0))]
    ∃ x, (Constructor.bulk () ⟨none, ()⟩ 0x83 1000).construct true = some x ∧
      (exec (step .«in» x.handle) (init fun _ => 0) as).isSome ∧
      Along (step .«in» x.handle) (Delivers .«in» x.handle) (init fun _ => 0) as := by
  intro as
  have hconstruct : (Constructor.bulk () ⟨none, ()⟩ 0x83 1000).construct true = some _ := rfl
  exact ⟨_, hconstruct, by decide, delivers_along hconstruct (by decide) _ _ (by decide)⟩

end UsbAsio.Transfer.Delivery
