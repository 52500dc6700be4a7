import UsbAsio.Effects.Unwinding
import UsbAsio.RefPtr.Basic
import UsbAsio.Transfer.Basic

/-!
# Lists of devices

`list_usb_devices` gets the device list of libusb, which holds a reference on every entry, copies it
into a vector of `usb_device_info` objects, each of which takes a reference of its own, and frees
the list, also when the vector cannot allocate its storage.
-/

namespace UsbAsio.DeviceList

open Effects Ledger

/-! ### Calls -/

/-- The devices are named by `δ`. The calls of a `usb_device_info` are those of its
`libusb_ref_ptr`. -/
inductive Call (δ : Type) where
  | getDeviceList
  | allocate (n : ℕ)
  | refPtr (c : RefPtr.Call δ)
  | freeDeviceList (list : List δ) (unrefDevices : Bool)

/-- What a call returns: `libusb_get_device_list` a code and, if it succeeds, a list; the allocator
of the vector its exception, or storage, which may be larger than was asked for. -/
structure Answer (δ χ : Type) where
  retCode : ℤ
  list : List δ
  thrown : Option χ
  spare : ℕ

variable {δ χ α : Type}

/-- `device_handles`, which is null before the call. -/
def Answer.deviceHandles (answer : Answer δ χ) : Option (List δ) :=
  if answer.retCode < 0 then none else some answer.list

/-- The exceptions of the allocator are named by `χ`. -/
inductive Exception (χ : Type) where
  | systemError (ec : ErrorCode)
  | allocator (e : χ)

/-- A vector of `usb_device_info` objects. -/
structure Vector (δ : Type) where
  handles : List δ
  capacity : ℕ

abbrev Program (δ χ α : Type) := Effects.Program (Call δ) (Answer δ χ) (Exception χ) (Vector δ) α

abbrev Machine (δ χ : Type) := Effects.Machine (Call δ) (Answer δ χ) (Vector δ)

/-- `libusb_try` for a function that returns an `ssize_t`; a `usb_errc` is an `int`. -/
def libusbTryLong (retCode : ℤ) : ErrorCode × ℕ :=
  if retCode < 0 then (makeErrorCode (toInt32 retCode), 0) else (.clear, retCode.toNat)

/-! ### The vector -/

/-- The destructor of a `usb_device_info`. -/
def destroyInfo (handle : δ) : Program δ χ Unit := do
  let _ ← call (.refPtr (.unref (some handle)))

def destroyInfos : List δ → Program δ χ Unit
  | []                => return ()
  | handle :: handles => do
    destroyInfo handle
    destroyInfos handles

/-- The destructor of the vector. -/
def destroyVector : Program δ χ Unit := do
  let x ← getObject
  destroyInfos x.handles
  modifyObject fun _ => ⟨[], 0⟩

/-- New storage, to which the elements are moved. -/
def allocate (n : ℕ) : Program δ χ Unit := do
  let answer ← call (.allocate n)
  match answer.thrown with
  | some e => throw (.thrown (.allocator e))
  | none   => modifyObject fun x => { x with capacity := n + answer.spare }

def reserve (n : ℕ) : Program δ χ Unit := do
  let x ← getObject
  if x.capacity < n then allocate n

/-- `push_back(usb_device_info{handle})`: the vector grows when it is full, and moves the temporary
object to its end. -/
def pushBack (handle : δ) : Program δ χ Unit := do
  let _ ← call (.refPtr (.ref (some handle)))
  onUnwind (destroyInfo handle) do
    let x ← getObject
    if x.handles.length = x.capacity then allocate (x.capacity + max x.capacity 1)
    modifyObject fun x => { x with handles := x.handles ++ [handle] }

/-- `std::ranges::transform` into a `std::back_inserter`. -/
def transform : List δ → Program δ χ Unit
  | []                => return ()
  | handle :: handles => do
    pushBack handle
    transform handles

/-! ### The list -/

/-- `~handles_owner()`. -/
def freeHandles : Option (List δ) → Program δ χ Unit
  | none      => return ()
  | some list => do
    let _ ← call (.freeDeviceList list true)

/-- The life of `result`, up to the `return`. -/
def fillResult (deviceHandles : Option (List δ)) (numDevices : ℕ) : Program δ χ (List δ) := do
  modifyObject fun _ => ⟨[], 0⟩
  onUnwind destroyVector do
    reserve numDevices
    transform ((deviceHandles.getD []).take numDevices)
    let x ← getObject
    return x.handles

/-- `list_usb_devices(context, ec, alloc)`, when the service exists. -/
def listUsbDevicesEc (_ec : ErrorCode) : Program δ χ (List δ × ErrorCode) := do
  let answer ← call .getDeviceList
  let tried := libusbTryLong answer.retCode
  if tried.1.isError then
    modifyObject fun _ => ⟨[], 0⟩
    return ([], tried.1)
  else
    let handles ← withCleanup (freeHandles answer.deviceHandles)
      (fillResult answer.deviceHandles tried.2)
    return (handles, tried.1)

/-- `try_with_ec(fn)`, where the result is a vector. -/
def tryWithEc (fn : ErrorCode → Program δ χ (List δ × ErrorCode)) : Program δ χ (List δ) := do
  let x ← fn .clear
  onUnwind destroyVector (if x.2.isError then throw (.thrown (.systemError x.2)) else return x.1)

/-- `list_usb_devices(context, alloc)`. -/
def listUsbDevices : Program δ χ (List δ) := tryWithEc listUsbDevicesEc

/-! ### The property -/

/-- What a call does to the references on devices. -/
def callEvents : Call δ × Answer δ χ → List (Event δ)
  | (.getDeviceList, answer)             => (answer.deviceHandles.getD []).map .acquire
  | (.allocate _, _)                     => []
  | (.refPtr c, _)                       => c.event.toList
  | (.freeDeviceList list unrefDevices, _) => if unrefDevices then list.map .release else []

def events (log : List (Call δ × Answer δ χ)) : List (Event δ) := log.flatMap callEvents

/-- The lists that have been freed, latest first. -/
def freed (log : List (Call δ × Answer δ χ)) : List (List δ) :=
  log.filterMap fun e => match e.1 with
    | .freeDeviceList list _ => some list
    | _                      => none

variable [DecidableEq δ]

/-- Every reference that was given back was held, and those that are left are those of
`handles`. -/
structure Balanced (log : List (Call δ × Answer δ χ)) (handles : List δ) : Prop where
  solvent : Solvent (events log)
  counted : ∀ p, (events log).count (.acquire p) =
    (events log).count (.release p) + handles.count p

/-- What `libusb_get_device_list` promises: the number of entries, or an error that is an `int`. -/
structure Documented (answer : Answer δ χ) : Prop where
  error : -2 ^ 31 ≤ answer.retCode
  length : 0 ≤ answer.retCode → answer.retCode = answer.list.length

/-- The exception of the vector's allocation, which comes after the first call; an empty vector has
none. -/
def refusal (answers : ℕ → Answer δ χ) : Option χ :=
  if (answers 0).list = [] then none else (answers 1).thrown

/-- The three ways to leave `list_usb_devices(context, ec, alloc)`. -/
inductive Exit (answers : ℕ → Answer δ χ) :
    EStateM.Result (Stop (Exception χ)) (Machine δ χ) (List δ × ErrorCode) → Prop where
  | failed {m : Machine δ χ} (hret : (answers 0).retCode < 0) (hfreed : freed m.log = [])
      (hbalanced : Balanced m.log []) :
      Exit answers (.ok ([], makeErrorCode (answers 0).retCode) m)
  | refused {m : Machine δ χ} (e : χ) (hret : 0 ≤ (answers 0).retCode)
      (he : refusal answers = some e) (hfreed : freed m.log = [(answers 0).list])
      (hbalanced : Balanced m.log []) :
      Exit answers (.error (.thrown (.allocator e)) m)
  | listed {m : Machine δ χ} (hret : 0 ≤ (answers 0).retCode) (hnone : refusal answers = none)
      (hfreed : freed m.log = [(answers 0).list]) (hbalanced : Balanced m.log (answers 0).list) :
      Exit answers (.ok ((answers 0).list, .clear) m)

/-- The three ways to leave `list_usb_devices(context, alloc)`. -/
inductive ThrowingExit (answers : ℕ → Answer δ χ) :
    EStateM.Result (Stop (Exception χ)) (Machine δ χ) (List δ) → Prop where
  | failed {m : Machine δ χ} (hret : (answers 0).retCode < 0) (hfreed : freed m.log = [])
      (hbalanced : Balanced m.log []) :
      ThrowingExit answers
        (.error (.thrown (.systemError (makeErrorCode (answers 0).retCode))) m)
  | refused {m : Machine δ χ} (e : χ) (hret : 0 ≤ (answers 0).retCode)
      (he : refusal answers = some e) (hfreed : freed m.log = [(answers 0).list])
      (hbalanced : Balanced m.log []) :
      ThrowingExit answers (.error (.thrown (.allocator e)) m)
  | listed {m : Machine δ χ} (hret : 0 ≤ (answers 0).retCode) (hnone : refusal answers = none)
      (hfreed : freed m.log = [(answers 0).list]) (hbalanced : Balanced m.log (answers 0).list) :
      ThrowingExit answers (.ok (answers 0).list m)

/-! ### The vector is filled -/

variable {m m' : Machine δ χ}

/-- `handles` have been appended to the vector, each with a reference of its own. -/
structure Appended (m m' : Machine δ χ) (handles : List δ) : Prop where
  object : m'.object = ⟨m.object.handles ++ handles, m.object.capacity⟩
  events : events m'.log = handles.reverse.map .acquire ++ events m.log
  freed : freed m'.log = freed m.log

omit [DecidableEq δ] in
lemma run_pushBack (handle : δ) (h : m.object.handles.length < m.object.capacity) :
    ∃ m', (pushBack handle).run m = .ok () m' ∧ Appended m m' [handle] := by
  refine ⟨{ m with
    object := ⟨m.object.handles ++ [handle], m.object.capacity⟩
    log := (.refPtr (.ref (some handle)), m.answers m.log.length) :: m.log }, ?_, rfl, rfl, rfl⟩
  rw [pushBack, run_bind_of_ok (run_call _ _)]
  apply run_onUnwind_of_ok
  rw [run_bind_of_ok (run_getObject _), if_neg h.ne]
  rfl

omit [DecidableEq δ] in
/-- With room for all of them, no element is lost, and nothing is thrown. -/
lemma run_transform (handles : List δ)
    (h : m.object.handles.length + handles.length ≤ m.object.capacity) :
    ∃ m', (transform handles).run m = .ok () m' ∧ Appended m m' handles := by
  induction handles generalizing m with
  | nil => exact ⟨m, rfl, by rw [List.append_nil], rfl, rfl⟩
  | cons handle handles ih =>
    rw [List.length_cons] at h
    obtain ⟨m₁, hpush, hm₁⟩ := run_pushBack handle (m := m) (by omega)
    obtain ⟨m', hrest, hm'⟩ := ih (m := m₁) (by
      simp only [hm₁.object, List.length_append, List.length_singleton]
      omega)
    refine ⟨m', ?_, ?_, ?_, ?_⟩
    · rw [transform, run_bind_of_ok hpush, hrest]
    · rw [hm'.object, hm₁.object, List.append_assoc, List.singleton_append]
    · rw [hm'.events, hm₁.events]
      simp
    · rw [hm'.freed, hm₁.freed]

omit [DecidableEq δ] in
lemma run_allocate_of_refused (n : ℕ) {e : χ}
    (he : (m.answers m.log.length).thrown = some e) :
    (allocate n).run m = .error (.thrown (.allocator e))
      { m with log := (.allocate n, m.answers m.log.length) :: m.log } := by
  rw [allocate, run_bind_of_ok (run_call _ _), he]
  rfl

omit [DecidableEq δ] in
lemma run_allocate_of_granted (n : ℕ) (hnone : (m.answers m.log.length).thrown = none) :
    (allocate n).run m = .ok () { m with
      object := ⟨m.object.handles, n + (m.answers m.log.length).spare⟩
      log := (.allocate n, m.answers m.log.length) :: m.log } := by
  rw [allocate, run_bind_of_ok (run_call _ _), hnone]
  rfl

omit [DecidableEq δ] in
/-- The storage is refused before there is an element. -/
lemma run_fillResult_of_refused {list : List δ} {e : χ} (hlist : list ≠ [])
    (he : (m.answers m.log.length).thrown = some e) : ∃ m',
      (fillResult (some list) list.length).run m = .error (.thrown (.allocator e)) m' ∧
        events m'.log = events m.log ∧ freed m'.log = freed m.log := by
  have hlength : 0 < list.length := List.length_pos_iff.mpr hlist
  refine ⟨{ m with
    object := ⟨[], 0⟩
    log := (.allocate list.length, m.answers m.log.length) :: m.log }, ?_, rfl, rfl⟩
  rw [fillResult, run_bind_of_ok (run_modifyObject _ _)]
  apply run_onUnwind_of_thrown
  · apply run_bind_of_error
    rw [reserve, run_bind_of_ok (run_getObject _), if_pos hlength]
    exact run_allocate_of_refused _ he
  · rfl

omit [DecidableEq δ] in
lemma run_reserve (n : ℕ) (hempty : m.object = ⟨[], 0⟩)
    (h : n = 0 ∨ (m.answers m.log.length).thrown = none) :
    ∃ m', (reserve n).run m = .ok () m' ∧ m'.object.handles = [] ∧ n ≤ m'.object.capacity ∧
      events m'.log = events m.log ∧ freed m'.log = freed m.log := by
  have hcapacity : m.object.capacity = 0 := congrArg Vector.capacity hempty
  have hhandles : m.object.handles = [] := congrArg Vector.handles hempty
  rcases Nat.eq_zero_or_pos n with rfl | hpos
  · refine ⟨m, ?_, hhandles, Nat.zero_le _, rfl, rfl⟩
    rw [reserve, run_bind_of_ok (run_getObject _), if_neg (Nat.not_lt_zero _)]
    rfl
  · have hgranted := run_allocate_of_granted n (h.resolve_left hpos.ne')
    have hreserve : (reserve n).run m = (allocate n).run m := by
      rw [reserve, run_bind_of_ok (run_getObject _), if_pos (by rwa [hcapacity])]
    exact ⟨_, hreserve.trans hgranted, hhandles, Nat.le_add_right n _, rfl, rfl⟩

omit [DecidableEq δ] in
/-- The result holds the list and a reference for each of its entries. -/
lemma run_fillResult_of_granted {list : List δ}
    (h : list = [] ∨ (m.answers m.log.length).thrown = none) : ∃ m',
      (fillResult (some list) list.length).run m = .ok list m' ∧
        events m'.log = list.reverse.map .acquire ++ events m.log ∧
        freed m'.log = freed m.log := by
  obtain ⟨m₁, hreserve, hhandles, hcapacity, hevents, hfreed⟩ := run_reserve list.length
    (m := { m with object := ⟨[], 0⟩ }) rfl (h.imp_left fun hnil => by rw [hnil]; rfl)
  obtain ⟨m', htransform, hm'⟩ := run_transform list (m := m₁) (by
    rw [hhandles]
    simpa using hcapacity)
  refine ⟨m', ?_, hm'.events.trans (by rw [hevents]), hm'.freed.trans hfreed⟩
  rw [fillResult, run_bind_of_ok (run_modifyObject _ _)]
  apply run_onUnwind_of_ok
  have htake : (some list |>.getD []).take list.length = list := List.take_length
  rw [run_bind_of_ok hreserve, htake, run_bind_of_ok htransform, run_bind_of_ok (run_getObject _)]
  have hresult : m'.object.handles = list := by rw [hm'.object, hhandles]; rfl
  rw [hresult]
  rfl

/-! ### The list is freed -/

/-- The list has gone, and its references with it. -/
lemma balanced_freed {answer answer' : Answer δ χ} (hret : 0 ≤ answer.retCode)
    {log : List (Call δ × Answer δ χ)} {handles : List δ}
    (h : events log = handles.map .acquire ++ events [(.getDeviceList, answer)]) :
    Balanced ((.freeDeviceList answer.list true, answer') :: log) handles := by
  have hgot : events [(.getDeviceList, answer)] = answer.list.map .acquire := by
    rw [events, List.flatMap_singleton, callEvents, Answer.deviceHandles, if_neg hret.not_gt]
    rfl
  have hall : events ((.freeDeviceList answer.list true, answer') :: log) =
      borrow answer.list handles := by
    rw [borrow, ← hgot, ← h]
    rfl
  constructor
  · rw [hall]
    exact solvent_borrow answer.list handles
  · rw [hall]
    exact count_acquire_borrow answer.list handles

/-! ### Both overloads -/

/-- The order of the objects does not matter. -/
lemma Balanced.of_reverse {log : List (Call δ × Answer δ χ)} {handles : List δ}
    (h : Balanced log handles.reverse) : Balanced log handles :=
  ⟨h.solvent, fun p => by rw [h.counted, List.count_reverse]⟩

lemma balanced_failed {answer : Answer δ χ} (hret : answer.retCode < 0) :
    Balanced [(Call.getDeviceList, answer)] [] := by
  have hnone : events [(Call.getDeviceList, answer)] = [] := by
    rw [events, List.flatMap_singleton, callEvents, Answer.deviceHandles, if_pos hret]
    rfl
  constructor
  · rw [hnone]
    trivial
  · rw [hnone]
    exact fun _ => rfl

omit [DecidableEq δ] in
lemma run_listUsbDevicesEc_of_failed (answers : ℕ → Answer δ χ) (x : Vector δ) (ec : ErrorCode)
    (h : Documented (answers 0)) (hret : (answers 0).retCode < 0) :
    (listUsbDevicesEc ec).run (.start answers x) =
      .ok ([], makeErrorCode (answers 0).retCode)
        ⟨answers, [(.getDeviceList, answers 0)], ⟨[], 0⟩⟩ := by
  have hcall : (call .getDeviceList : Program δ χ _).run (.start answers x) =
      .ok (answers 0) ⟨answers, [(.getDeviceList, answers 0)], x⟩ := rfl
  have htried : libusbTryLong (answers 0).retCode = (makeErrorCode (answers 0).retCode, 0) := by
    rw [libusbTryLong, if_pos hret, toInt32_eq_self_iff.mpr ⟨h.error, by omega⟩]
  rw [listUsbDevicesEc, run_bind_of_ok hcall]
  simp only [htried, isError_makeErrorCode hret, if_true]
  rfl

/-- `list_usb_devices(context, ec, alloc)` leaves nothing behind but its result. -/
lemma exit_listUsbDevicesEc (answers : ℕ → Answer δ χ) (x : Vector δ) (ec : ErrorCode)
    (h : Documented (answers 0)) :
    Exit answers ((listUsbDevicesEc ec).run (.start answers x)) := by
  rcases lt_or_ge (answers 0).retCode 0 with hret | hret
  · rw [run_listUsbDevicesEc_of_failed answers x ec h hret]
    exact .failed hret rfl (balanced_failed hret)
  let m₁ : Machine δ χ := ⟨answers, [(.getDeviceList, answers 0)], x⟩
  have hcall : (call .getDeviceList : Program δ χ _).run (.start answers x) =
      .ok (answers 0) m₁ := rfl
  have htried : libusbTryLong (answers 0).retCode = (.clear, (answers 0).list.length) := by
    rw [libusbTryLong, if_neg hret.not_gt, h.length hret, Int.toNat_natCast]
  have hhandles : (answers 0).deviceHandles = some (answers 0).list := if_neg hret.not_gt
  rw [listUsbDevicesEc, run_bind_of_ok hcall]
  simp only [htried, hhandles, ErrorCode.isError_clear, Bool.false_eq_true, if_false]
  -- the list is there: its deleter runs whether or not `reserve` throws
  cases hrefusal : refusal answers with
  | some e =>
    obtain ⟨hlist, he⟩ := Option.ite_none_left_eq_some.mp hrefusal
    obtain ⟨m₂, hrun, hevents, hfreed⟩ := run_fillResult_of_refused (m := m₁) hlist he
    have hfree : (freeHandles (some (answers 0).list)).run m₂ = .ok () _ := rfl
    rw [run_bind_of_error (run_withCleanup_of_thrown hrun hfree)]
    refine .refused e hret hrefusal ?_ (balanced_freed hret hevents)
    exact congrArg (List.cons _) hfreed
  | none =>
    have hgranted : (answers 0).list = [] ∨ (m₁.answers m₁.log.length).thrown = none := by
      rw [refusal] at hrefusal
      split_ifs at hrefusal with hlist
      · exact .inl hlist
      · exact .inr hrefusal
    obtain ⟨m₂, hrun, hevents, hfreed⟩ := run_fillResult_of_granted (m := m₁) hgranted
    have hfree : (freeHandles (some (answers 0).list)).run m₂ = .ok () _ := rfl
    rw [run_bind_of_ok (run_withCleanup_of_ok hrun hfree)]
    refine .listed hret hrefusal ?_ (balanced_freed hret hevents).of_reverse
    exact congrArg (List.cons _) hfreed

/-- Listing devices neither leaks nor gives back too much, whatever libusb and the allocator answer:
the vector holds the list and a reference for each entry, or there is an error or an exception and
everything is as before; a list is freed once. The other overload does the same, and throws exactly
when the call has failed or the allocation has thrown. -/
theorem exit_listUsbDevices (answers : ℕ → Answer δ χ) (x : Vector δ) (ec : ErrorCode)
    (h : Documented (answers 0)) :
    Exit answers ((listUsbDevicesEc ec).run (.start answers x)) ∧
      ThrowingExit answers (listUsbDevices.run (.start answers x)) := by
  refine ⟨exit_listUsbDevicesEc answers x ec h, ?_⟩
  rw [listUsbDevices, tryWithEc]
  rcases lt_or_ge (answers 0).retCode 0 with hret | hret
  · rw [run_bind_of_ok (run_listUsbDevicesEc_of_failed answers x .clear h hret)]
    let m : Machine δ χ := ⟨answers, [(.getDeviceList, answers 0)], ⟨[], 0⟩⟩
    have hthrow : (throw (.thrown (.systemError (makeErrorCode (answers 0).retCode))) :
        Program δ χ (List δ)).run m = .error (.thrown _) m := rfl
    -- the result that is destroyed is empty
    have hdestroy : destroyVector.run m = .ok () m := rfl
    rw [isError_makeErrorCode hret, if_pos rfl, run_onUnwind_of_thrown hthrow hdestroy]
    exact .failed hret rfl (balanced_failed hret)
  · have hexit := exit_listUsbDevicesEc answers x .clear h
    generalize hrun : (listUsbDevicesEc .clear).run (.start answers x) = r at hexit
    cases hexit with
    | failed hfailed => exact absurd hret hfailed.not_ge
    | refused e _ he hfreed hbalanced =>
      rw [run_bind_of_error hrun]
      exact .refused e hret he hfreed hbalanced
    | listed _ hnone hfreed hbalanced =>
      rw [run_bind_of_ok hrun]
      exact .listed hret hnone hfreed hbalanced

/-- Three entries, two of which are the same device. -/
theorem exit_listUsbDevices_repeated :
    let answers : ℕ → Answer ℕ Unit := fun _ => ⟨3, [7, 8, 7], none, 0⟩
    Exit answers ((listUsbDevicesEc .clear).run (.start answers ⟨[], 0⟩)) ∧
      ThrowingExit answers (listUsbDevices.run (.start answers ⟨[], 0⟩)) :=
  exit_listUsbDevices _ ⟨[], 0⟩ .clear ⟨by decide, fun _ => rfl⟩

end UsbAsio.DeviceList
