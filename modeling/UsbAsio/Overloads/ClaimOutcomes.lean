import UsbAsio.Effects.Insensitive
import UsbAsio.Overloads.Runs

/-!
# Outcomes of a claim

A call of `claim` ends in one of three ways: with the new claim recorded, with the old one kept
because it could not be released, or with none. What the calls for the kernel driver return has no
influence on the way it goes.
-/

namespace UsbAsio.Overloads

open Effects Interface

/-! ### Earlier claims -/

/-- The fields of an interface are initialised: without a claim, its number is 0. -/
def Initialised (x : UsbInterface) : Prop := x.deviceHandle = none → x.number = 0

/-- A claim or an unclaim, with the `ec` that it is given. -/
inductive Earlier where
  | claim (p : Claim) (detachKernelDriver : Bool) (ec : ErrorCode)
  | unclaim (reattachKernelDriver : Bool) (ec : ErrorCode)

def Earlier.program : Earlier → Program UsbInterface (Unit × ErrorCode)
  | .claim p detachDriver ec =>
    InterfaceObject.claimDetachEc (some p.device) p.number detachDriver ec
  | .unclaim reattach ec     => InterfaceObject.unclaimReattachEc reattach ec

/-- `m` after some claims and unclaims, the first of which stands first. -/
def after (m : Machine UsbInterface) (earlier : List Earlier) : Machine UsbInterface :=
  afterAll m (earlier.map Earlier.program)

/-! ### The three ways -/

inductive Way where
  | claimed
  | releaseFailed
  | claimFailed
  deriving DecidableEq

/-- A release of `p` is among the calls of `log`, and has succeeded. -/
def Released (p : Claim) (log : List (LibusbCall × Answer)) : Prop :=
  ∃ answer, (.releaseInterface (some p.device) p.number, answer) ∈ log ∧ 0 ≤ answer.retCode

/-- From `m` to `m'`, the old claim has been kept, and `ec` says why. -/
def ReleaseFailed (m m' : Machine UsbInterface) (ec : ErrorCode) : Prop :=
  ∃ answer, ∃ p₀ ∈ m.object.record,
    m'.log = (.releaseInterface (some p₀.device) p₀.number, answer) :: m.log ∧
      answer.retCode < 0 ∧ ec = makeErrorCode answer.retCode ∧ m'.object = m.object

/-- From `m` to `m'`, a claim of `p` that left `ec` has gone this way. -/
def Ends (p : Claim) (m m' : Machine UsbInterface) (ec : ErrorCode) : Way → Prop
  | .claimed => ec = .clear ∧ m'.object = ⟨some p.device, p.number⟩ ∧
    ∃ answer earlier,
      m'.log = (.claimInterface (some p.device) p.number, answer) :: (earlier ++ m.log) ∧
      0 ≤ answer.retCode ∧ ∀ p₀ ∈ m.object.record, Released p₀ earlier
  | .releaseFailed => ReleaseFailed m m' ec
  | .claimFailed => m'.object = ⟨none, 0⟩ ∧
    ∃ answer earlier,
      m'.log = (.claimInterface (some p.device) p.number, answer) :: (earlier ++ m.log) ∧
      answer.retCode < 0 ∧ ec = makeErrorCode answer.retCode ∧
      ∀ p₀ ∈ m.object.record, Released p₀ earlier

/-- The calls for the kernel driver. -/
def LibusbCall.onKernelDriver : LibusbCall → Bool
  | .attachKernelDriver _ _ | .detachKernelDriver _ _ => true
  | _                                                 => false

/-! ### One call -/

variable {m m' : Machine UsbInterface} {p : Claim} {ec : ErrorCode}

/-- The old claim is released, or it is kept and nothing else is called. -/
lemma unclaim_ends (reattach : Bool) (ec : ErrorCode) (hx : Initialised m.object) :
    (∃ m₁ earlier, (InterfaceObject.unclaimReattachEc reattach ec).run m = .ok ((), .clear) m₁ ∧
      m₁.object = ⟨none, 0⟩ ∧ m₁.log = earlier ++ m.log ∧
      ∀ p₀ ∈ m.object.record, Released p₀ earlier) ∨
    ∃ m₁ ec₁, (InterfaceObject.unclaimReattachEc reattach ec).run m = .ok ((), ec₁) m₁ ∧
      ec₁.isError = true ∧ ReleaseFailed m m₁ ec₁ := by
  cases hhandle : m.object.deviceHandle with
  | none =>
    have hrecord : m.object.record = none := by rw [UsbInterface.record, hhandle]; rfl
    have hobject : m.object = ⟨none, 0⟩ := by rw [← hhandle, ← hx hhandle]
    refine .inl ⟨m, [], InterfaceObject.run_unclaim_of_unclaimed reattach ec hhandle, hobject, rfl,
      ?_⟩
    rw [hrecord]
    exact nofun
  | some handle =>
    have hrecord : m.object.record = some ⟨handle, m.object.number⟩ := by
      rw [UsbInterface.record, hhandle]; rfl
    rw [hrecord]
    rcases lt_or_ge (nextRet m) 0 with hret | hret
    · refine .inr ⟨_, _, InterfaceObject.run_unclaim_of_failed reattach ec hhandle hret,
        by simpa using hret, _, _, hrecord, rfl, hret, ?_, rfl⟩
      rw [libusbTry, if_pos hret]
      rfl
    · have hreleased : ∀ earlier : List (LibusbCall × Answer),
          (.releaseInterface (some handle) m.object.number, m.answers m.log.length) ∈ earlier →
          ∀ p₀ ∈ some (Claim.mk handle m.object.number), Released p₀ earlier := by
        rintro earlier hmem p₀ ⟨⟩
        exact ⟨_, hmem, hret⟩
      have hrun := InterfaceObject.run_unclaim_of_released reattach ec hhandle hret
      cases reattach with
      | false => exact .inl ⟨_, [_], hrun, rfl, rfl, hreleased _ (by simp)⟩
      | true => exact .inl ⟨_, [_, _], hrun, rfl, rfl, hreleased _ (by simp)⟩

/-- A claim ends in one of the three ways, and sets no other `ec`. -/
lemma claim_ends (p : Claim) (detachDriver : Bool) (ec : ErrorCode) (hx : Initialised m.object) :
    ∃ m' ec' way, (InterfaceObject.claimDetachEc (some p.device) p.number detachDriver ec).run m =
      .ok ((), ec') m' ∧ Ends p m m' ec' way := by
  rcases unclaim_ends true ec hx with
    ⟨m₁, earlier, hunclaim, hobject, hlog, hreleased⟩ | ⟨m₁, ec₁, hunclaim, herr, hends⟩
  · have hrun := InterfaceObject.run_claim_of_unclaimed (some p.device) p.number detachDriver ec
      hunclaim
    -- with or without a call for the kernel driver
    obtain ⟨earlier', hlog', hreleased'⟩ : ∃ earlier',
        (if detachDriver then issue m₁ (.detachKernelDriver (some p.device) p.number) else m₁).log =
          earlier' ++ m.log ∧ ∀ p₀ ∈ m.object.record, Released p₀ earlier' := by
      cases detachDriver with
      | false => exact ⟨earlier, hlog, hreleased⟩
      | true =>
        refine ⟨_ :: earlier, congrArg (List.cons _) hlog, fun p₀ hp₀ => ?_⟩
        obtain ⟨answer, hmem, hret⟩ := hreleased p₀ hp₀
        exact ⟨answer, List.mem_cons_of_mem _ hmem, hret⟩
    generalize (if detachDriver then issue m₁ (.detachKernelDriver (some p.device) p.number)
      else m₁) = m₂ at hrun hlog'
    rcases lt_or_ge (nextRet m₂) 0 with hret | hret
    · refine ⟨_, _, .claimFailed, hrun, ?_, _, earlier', ?_, hret, ?_, hreleased'⟩
      · exact (if_pos hret).trans hobject
      · exact congrArg (List.cons _) hlog'
      · rw [libusbTry, if_pos hret]
        rfl
    · refine ⟨_, _, .claimed, hrun, ?_, ?_, _, earlier', ?_, hret, hreleased'⟩
      · rw [libusbTry, if_neg hret.not_gt]
      · exact if_neg hret.not_gt
      · exact congrArg (List.cons _) hlog'
  · exact ⟨_, _, .releaseFailed, InterfaceObject.run_claim_of_claimed (some p.device) p.number
      detachDriver hunclaim herr, hends⟩

/-- The way that a claim has gone can be told from `ec` and the object. -/
def wayOf (ec : ErrorCode) (x : UsbInterface) : Way :=
  if ec.isError then if x.record.isSome then .releaseFailed else .claimFailed else .claimed

lemma Ends.eq_wayOf {way : Way} (h : Ends p m m' ec way) : way = wayOf ec m'.object := by
  cases way with
  | claimed =>
    obtain ⟨rfl, -⟩ := h
    rfl
  | releaseFailed =>
    obtain ⟨answer, p₀, hp₀, -, hret, rfl, hobject⟩ := h
    rw [wayOf, isError_makeErrorCode hret, hobject, hp₀]
    rfl
  | claimFailed =>
    obtain ⟨hobject, answer, earlier, -, hret, rfl, -⟩ := h
    rw [wayOf, isError_makeErrorCode hret, hobject]
    rfl

lemma ReleaseFailed.initialised (h : ReleaseFailed m m' ec) : Initialised m'.object := by
  obtain ⟨answer, p₀, hp₀, -, -, -, hobject⟩ := h
  rw [hobject]
  intro hnone
  rw [UsbInterface.record, hnone] at hp₀
  cases hp₀

lemma initialised_of_ends {way : Way} (h : Ends p m m' ec way) : Initialised m'.object := by
  cases way with
  | claimed =>
    rw [h.2.1]
    exact nofun
  | releaseFailed => exact h.initialised
  | claimFailed =>
    rw [h.1]
    exact fun _ => rfl

/-! ### The kernel driver -/

lemma insensitive_libusbTryEc {c : LibusbCall} (hc : c.onKernelDriver = false) (ec : ErrorCode) :
    Insensitive LibusbCall.onKernelDriver (libusbTryEc c ec : Program UsbInterface _) :=
  .bind (.call hc) fun _ => .pure _

lemma insensitive_unclaim (reattach : Bool) (ec : ErrorCode) :
    Insensitive LibusbCall.onKernelDriver (InterfaceObject.unclaimReattachEc reattach ec) := by
  refine .noexcept (.bind .getObject fun x => .ite (.pure _) ?_)
  refine .bind (insensitive_libusbTryEc rfl _) fun tried => .ite (.pure _) ?_
  have hdetach : Insensitive LibusbCall.onKernelDriver
      ((modifyObject fun _ => ⟨none, 0⟩ : Program UsbInterface Unit) >>= fun _ =>
        pure ((), tried.2)) := .bind (.modifyObject _) fun _ => .pure _
  exact .ite (.callIgnored _ hdetach) hdetach

lemma insensitive_claim (device : Option DeviceHandle) (number : UInt8) (detachDriver : Bool)
    (ec : ErrorCode) : Insensitive LibusbCall.onKernelDriver
      (InterfaceObject.claimDetachEc device number detachDriver ec) := by
  refine .noexcept (.bind (.noexcept (insensitive_unclaim true ec)) fun unclaimed =>
    .ite (.pure _) ?_)
  have hclaim : Insensitive LibusbCall.onKernelDriver
      (libusbTryEc (.claimInterface device number) unclaimed.2 >>= fun tried =>
        if tried.2.isError then pure ((), tried.2)
        else (modifyObject fun _ => ⟨device, number⟩ : Program UsbInterface Unit) >>= fun _ =>
          pure ((), tried.2)) :=
    .bind (insensitive_libusbTryEc rfl _) fun tried =>
      .ite (.pure _) (.bind (.modifyObject _) fun _ => .pure _)
  exact .ite (.callIgnored _ hclaim) hclaim

lemma Earlier.insensitive (e : Earlier) :
    Insensitive LibusbCall.onKernelDriver e.program := by
  cases e with
  | claim p detachDriver ec => exact insensitive_claim _ _ _ ec
  | unclaim reattach ec => exact insensitive_unclaim _ ec

/-! ### Every claim -/

/-- Claims and unclaims leave no field uninitialised. -/
lemma initialised_after (earlier : List Earlier) (hx : Initialised m.object) :
    Initialised (after m earlier).object := by
  induction earlier generalizing m with
  | nil => exact hx
  | cons e earlier ih =>
    apply ih
    cases e with
    | claim p detachDriver ec =>
      obtain ⟨m', ec', way, hrun, hends⟩ := claim_ends p detachDriver ec hx
      rw [Earlier.program, hrun]
      exact initialised_of_ends hends
    | unclaim reattach ec =>
      rw [Earlier.program]
      rcases unclaim_ends reattach ec hx with
        ⟨m₁, _, hrun, hobject, -⟩ | ⟨m₁, ec₁, hrun, -, hends⟩
      · rw [hrun]
        exact fun _ => congrArg UsbInterface.number hobject
      · rw [hrun]
        exact hends.initialised

/-- Answers that differ only for the kernel driver lead to the same `ec` and the same object. -/
lemma claim_alike {x : UsbInterface} (earlier : List Earlier) {answers answers' : ℕ → Answer}
    {device : Option DeviceHandle} {number : UInt8} {detachDriver : Bool}
    {ec ec₁ ec₂ : ErrorCode} {m₁ m₂ : Machine UsbInterface}
    (hgives : Gives LibusbCall.onKernelDriver answers' m₁.log)
    (h₁ : (InterfaceObject.claimDetachEc device number detachDriver ec).run
      (after (.start answers x) earlier) = .ok ((), ec₁) m₁)
    (h₂ : (InterfaceObject.claimDetachEc device number detachDriver ec).run
      (after (.start answers' x) earlier) = .ok ((), ec₂) m₂) :
    ec₂ = ec₁ ∧ m₂.object = m₁.object := by
  have hprograms : ∀ q ∈ earlier.map Earlier.program, Insensitive LibusbCall.onKernelDriver q := by
    intro q hq
    obtain ⟨e, -, rfl⟩ := List.mem_map.mp hq
    exact e.insensitive
  have hclaim := insensitive_claim device number detachDriver ec
  have hlog := hclaim.log (after (.start answers x) earlier)
  rw [h₁] at hlog
  have hearlier : Alike (after (.start answers x) earlier) (after (.start answers' x) earlier) :=
    .afterAll hprograms ⟨rfl, rfl⟩ (hgives.of_suffix hlog)
  have hanswers : (after (.start answers' x) earlier).answers = answers' :=
    answers_afterAll hprograms _
  have hresults := hclaim.alike _ _ hearlier (by rwa [h₁, hanswers])
  rw [h₁, h₂] at hresults
  cases hresults with
  | ok _ halike => exact ⟨rfl, halike.object⟩

/-- After any claims and unclaims of an initialised interface, a claim ends in exactly one of the
three ways; and other answers to the calls for the kernel driver, now or earlier, change neither
the way nor `ec`. -/
theorem claim_existsUnique_way (x : UsbInterface) (hx : Initialised x) (earlier : List Earlier)
    (answers : ℕ → Answer) (p : Claim) (detachDriver : Bool) (ec : ErrorCode) :
    ∃ m' ec', (InterfaceObject.claimDetachEc (some p.device) p.number detachDriver ec).run
        (after (.start answers x) earlier) = .ok ((), ec') m' ∧
      (∃! way, Ends p (after (.start answers x) earlier) m' ec' way) ∧
      ∀ answers', Gives LibusbCall.onKernelDriver answers' m'.log →
        ∃ n', (InterfaceObject.claimDetachEc (some p.device) p.number detachDriver ec).run
            (after (.start answers' x) earlier) = .ok ((), ec') n' ∧
          ∀ way, Ends p (after (.start answers x) earlier) m' ec' way ↔
            Ends p (after (.start answers' x) earlier) n' ec' way := by
  have hinit := fun answers => initialised_after earlier (m := .start answers x) hx
  obtain ⟨m', ec', way, hrun, hends⟩ := claim_ends p detachDriver ec (hinit answers)
  refine ⟨m', ec', hrun, ⟨way, hends, fun way' hends' => ?_⟩, fun answers' hgives => ?_⟩
  · rw [hends.eq_wayOf, hends'.eq_wayOf]
  obtain ⟨n', ec'', way', hrun', hends'⟩ := claim_ends p detachDriver ec (hinit answers')
  obtain ⟨rfl, hobject⟩ := claim_alike earlier hgives hrun hrun'
  refine ⟨n', hrun', fun way₀ => ⟨fun h => ?_, fun h => ?_⟩⟩
  · rwa [h.eq_wayOf, ← hobject, ← hends'.eq_wayOf]
  · rwa [h.eq_wayOf, hobject, ← hends.eq_wayOf]

/-- Interface 1 is claimed, and claimed again, while the kernel driver is busy. -/
theorem claim_existsUnique_way_again :
    let handle : DeviceHandle := ⟨4096, by decide, by decide⟩
    let answers : ℕ → Answer := fun i =>
      ⟨if i ∈ [2, 3] then UsbErrc.busy.value else 0, handle, .zero, ⟨8192⟩⟩
    ∃ m' ec', (InterfaceObject.claimDetachEc (some handle) 1 true .clear).run
        (after (.start answers ⟨none, 0⟩) [.claim ⟨handle, 1⟩ false .clear]) = .ok ((), ec') m' ∧
      ∃! way, Ends ⟨handle, 1⟩
        (after (.start answers ⟨none, 0⟩) [.claim ⟨handle, 1⟩ false .clear]) m' ec' way := by
  intro handle answers
  obtain ⟨m', ec', hrun, hway, -⟩ := claim_existsUnique_way ⟨none, 0⟩ (fun _ => rfl)
    [.claim ⟨handle, 1⟩ false .clear] answers ⟨handle, 1⟩ true .clear
  exact ⟨m', ec', hrun, hway⟩

end UsbAsio.Overloads
