/-
What a packet capture keeps count of.

Whatever the libraries answer, the counters are the numbers of subscribers that are captured, the
file and its writer are there exactly while anything is, no port has a callback while nothing is
captured on it, and every filter in use is on the list, whose length is known.

Two things need more.  That a port has its callbacks while it is captured needs every registration
to succeed, since nothing looks at what it returns.  That a failed start leaves everything as it was
needs a start whose filter has been compiled to come through, since the filter is on the list by
then.  `PdumpOp.Clean` says so of a start.
-/
import FastRG.Lib.Run
import FastRG.Proofs.PdumpSlots

namespace FastRG

variable {c c' : PdumpCtx} {port : Port} {f : Option Nat} {lo hi ccb : Nat} {dev : PdumpDev}
  {lib : PdumpLib} {req : PdumpReq}

open FlagCount (count count_eq_zero)

/-! ### The session -/

/-- The file, its writer, the ring and the pool are there, or none of them is. -/
structure SessionIs (up : Bool) (c : PdumpCtx) : Prop where
  ring : c.ring = up
  mp : c.mp = up
  pcapFp : c.pcapFp = up
  writerStarted : c.writerStarted = up
  writerRunning : c.writerRunning = up

theorem SessionIs.kept {up : Bool} (h : SessionIs up c) (hkept : SessionKept c c') :
    SessionIs up c' := by
  rw [hkept]
  exact ⟨h.ring, h.mp, h.pcapFp, h.writerStarted, h.writerRunning⟩

/-- What is so of the capture, whatever the libraries have answered. -/
structure PdumpInv (dev : PdumpDev) (c : PdumpCtx) : Prop where
  counted : Counted c
  callbacks : Callbacks dev c
  session : SessionIs (decide (c.anyActive ≠ 0)) c
  nbFilters : c.nbFilters = c.filterList.length

/-- All that a start that fails should leave as it was. -/
structure Unchanged (c c' : PdumpCtx) : Prop where
  captureOn : c'.captureOn = c.captureOn
  filter : c'.filter = c.filter
  activePerPort : c'.activePerPort = c.activePerPort
  anyActive : c'.anyActive = c.anyActive
  rxCb : c'.rxCb = c.rxCb
  txCb : c'.txCb = c.txCb
  filterList : c'.filterList = c.filterList
  nbFilters : c'.nbFilters = c.nbFilters
  ring : c'.ring = c.ring
  mp : c'.mp = c.mp
  pcapFp : c'.pcapFp = c.pcapFp
  writerStarted : c'.writerStarted = c.writerStarted
  writerRunning : c'.writerRunning = c.writerRunning

theorem Unchanged.refl (c : PdumpCtx) : Unchanged c c :=
  ⟨rfl, rfl, rfl, rfl, rfl, rfl, rfl, rfl, rfl, rfl, rfl, rfl, rfl⟩

/-- Every step of the opening succeeds. -/
structure PdumpLib.Opens (lib : PdumpLib) : Prop where
  mempool : lib.mempoolErr = none
  ring : lib.ringErr = none
  fopen : lib.fopenOk = true
  header : lib.headerOk = true
  pthread : lib.pthreadOk = true

/-- Opening changes nothing but the session. -/
def SlotsKept (c c' : PdumpCtx) : Prop :=
  c' = { c with
    ring := c'.ring
    mp := c'.mp
    pcapFp := c'.pcapFp
    pcapPath := c'.pcapPath
    writerRunning := c'.writerRunning
    writerStarted := c'.writerStarted
    sizeLimit := c'.sizeLimit
    bytesWritten := c'.bytesWritten
    paused := c'.paused }

/-- Opening makes all of the session or, if some step fails, nothing of it. -/
theorem pdumpCaptureOpen_cases (lib : PdumpLib) (h : SessionIs false c) :
    SlotsKept c (pdumpCaptureOpen lib c).2 ∧
      (((∃ err, (pdumpCaptureOpen lib c).1 = .error err) ∧ ¬ lib.Opens ∧
          SessionIs false (pdumpCaptureOpen lib c).2) ∨
        ((pdumpCaptureOpen lib c).1 = .ok () ∧ lib.Opens ∧
          SessionIs true (pdumpCaptureOpen lib c).2)) := by
  unfold pdumpCaptureOpen
  simp only
  cases hmp : lib.mempoolErr with
  | some err =>
      refine ⟨rfl, .inl ⟨⟨_, rfl⟩, fun hopens => ?_, h.ring, rfl, h.pcapFp, h.writerStarted,
        h.writerRunning⟩⟩
      exact absurd (hmp.symm.trans hopens.mempool) (by simp)
  | none =>
      cases hring : lib.ringErr with
      | some err =>
          refine ⟨rfl, .inl ⟨⟨_, rfl⟩, fun hopens => ?_, rfl, rfl, h.pcapFp, h.writerStarted,
            h.writerRunning⟩⟩
          exact absurd (hring.symm.trans hopens.ring) (by simp)
      | none =>
          cases hopen : lib.fopenOk with
          | false =>
              refine ⟨rfl, .inl ⟨⟨_, rfl⟩, fun hopens => ?_, rfl, rfl, rfl, h.writerStarted,
                h.writerRunning⟩⟩
              exact absurd (hopen.symm.trans hopens.fopen) (by decide)
          | true =>
              cases hheader : lib.headerOk with
              | false =>
                  refine ⟨rfl, .inl ⟨⟨_, rfl⟩, fun hopens => ?_, rfl, rfl, rfl, h.writerStarted,
                    h.writerRunning⟩⟩
                  exact absurd (hheader.symm.trans hopens.header) (by decide)
              | true =>
                  cases hthread : lib.pthreadOk with
                  | false =>
                      refine ⟨rfl, .inl ⟨⟨_, rfl⟩, fun hopens => ?_, rfl, rfl, rfl,
                        h.writerStarted, rfl⟩⟩
                      exact absurd (hthread.symm.trans hopens.pthread) (by decide)
                  | true =>
                      exact ⟨rfl, .inr ⟨rfl, ⟨hmp, hring, hopen, hheader, hthread⟩,
                        rfl, rfl, rfl, rfl, rfl⟩⟩

/-- Behind the filter, a start goes on: there is a session that is not paused, or one is opened. -/
structure PdumpLib.GoesOn (lib : PdumpLib) (c : PdumpCtx) : Prop where
  opens : c.anyActive = 0 → lib.Opens
  unpaused : c.anyActive ≠ 0 → c.paused = false

theorem Counted.kept (h : Counted c) (hkept : SlotsKept c c') : Counted c' := by
  rw [hkept]
  exact ⟨h.active, h.sum, h.inRange, h.filters⟩

theorem Callbacks.kept (h : Callbacks dev c) (hkept : SlotsKept c c') : Callbacks dev c' := by
  rw [hkept]
  exact ⟨h.rx, h.tx⟩

theorem Registered.kept (h : Registered dev c) (hkept : SlotsKept c c') : Registered dev c' := by
  rw [hkept]
  exact ⟨h.rx, h.tx⟩

/-- What a start comes to behind the filter. -/
structure CameThrough (dev : PdumpDev) (lib : PdumpLib) (dir : Nat) (c c' : PdumpCtx) : Prop where
  inv : PdumpInv dev c'
  active : c'.anyActive ≠ 0
  nbFilters : c'.nbFilters = c.nbFilters
  slots : c'.slots = c.slots
  initialized : c'.initialized = c.initialized
  registered : Registered dev c →
    (∀ port ∈ pdumpDirPorts dir, c.activePerPort port = 0 → lib.Registers dev port) →
    Registered dev c'

/-- The slots are turned on in a session that is there. -/
theorem turnOn_cameThrough (h : Counted c) (hcb : Callbacks dev c) (hup : SessionIs true c)
    (hlist : c.nbFilters = c.filterList.length) (lib : PdumpLib) {dir : Nat}
    (hdir : (pdumpDirPorts dir).isEmpty = false) (hlo : lo ≤ hi) (hhi : hi < c.slots)
    (hf : ∀ a ∈ f, a ∈ c.filterList) :
    CameThrough dev lib dir c ((pdumpDirPorts dir).foldl (pdumpStartPort dev lib f lo hi) c) := by
  obtain ⟨hstarted, hports, hreg⟩ := startPorts_started (pdumpDirPorts dir) h hcb lib hlo hhi hf
  have hactive : ((pdumpDirPorts dir).foldl (pdumpStartPort dev lib f lo hi) c).anyActive ≠ 0 := by
    intro hzero
    cases hmem : pdumpDirPorts dir with
    | nil =>
        rw [hmem] at hdir
        exact absurd hdir (by decide)
    | cons port rest =>
        refine hports port (hmem ▸ List.mem_cons_self) ?_
        exact (anyActive_eq_zero hstarted.counted).mp hzero port
  have hkept := hstarted.kept
  refine ⟨⟨hstarted.counted, hstarted.callbacks, ?_, ?_⟩, hactive, ?_, ?_, ?_, hreg⟩
  · rw [decide_eq_true hactive]
    exact hup.kept hkept
  · rw [hkept]
    exact hlist
  · rw [hkept]
  · rw [hkept]
  · rw [hkept]

/-- Behind the filter a start comes through exactly when it goes on, and leaves everything as it was
if it does not. -/
theorem pdumpStartSlots_cases (h : PdumpInv dev c) (lib : PdumpLib) (userCount : Nat)
    (req : PdumpReq) (hdir : (pdumpDirPorts req.dir).isEmpty = false)
    (hlo : pdumpLo req.subscriber ≤ pdumpHi userCount req.subscriber)
    (hhi : pdumpHi userCount req.subscriber < c.slots) (hf : ∀ a ∈ f, a ∈ c.filterList) :
    ((∃ err, (pdumpStartSlots dev lib userCount req f c).1 = .error err) ∧ ¬ lib.GoesOn c ∧
        SlotsKept c (pdumpStartSlots dev lib userCount req f c).2 ∧
        SessionIs (decide (c.anyActive ≠ 0)) (pdumpStartSlots dev lib userCount req f c).2) ∨
      ((∃ path, (pdumpStartSlots dev lib userCount req f c).1 = .ok path) ∧ lib.GoesOn c ∧
        CameThrough dev lib req.dir c (pdumpStartSlots dev lib userCount req f c).2) := by
  unfold pdumpStartSlots
  simp only
  by_cases hidle : c.anyActive = 0
  · rw [if_pos hidle]
    have hdown : SessionIs false c := by
      have hsession := h.session
      rwa [hidle] at hsession
    generalize (if req.sizeLimitMb = 0 ∨ req.sizeLimitMb > pdumpMaxSizeMb then pdumpMaxSizeMb
      else req.sizeLimitMb) * 1024 * 1024 = limit
    obtain ⟨hkept, hcases⟩ := pdumpCaptureOpen_cases (c := { c with sizeLimit := limit }) lib
      ⟨hdown.ring, hdown.mp, hdown.pcapFp, hdown.writerStarted, hdown.writerRunning⟩
    generalize pdumpCaptureOpen lib { c with sizeLimit := limit } = opened at hkept hcases
    obtain ⟨result, c₁⟩ := opened
    have hkept₁ : SlotsKept c c₁ := hkept
    rcases hcases with ⟨⟨err, rfl⟩, hnot, hsession⟩ | ⟨rfl, hopens, hsession⟩
    · refine .inl ⟨⟨err, rfl⟩, fun hgoes => hnot (hgoes.opens hidle), hkept₁, ?_⟩
      rw [hidle]
      exact hsession
    · have hlist : c₁.filterList = c.filterList := by rw [hkept₁]
      have hslots : c₁.slots = c.slots := by rw [hkept₁]
      have hactive : c₁.activePerPort = c.activePerPort := by rw [hkept₁]
      have hthrough := turnOn_cameThrough (h.counted.kept hkept₁) (h.callbacks.kept hkept₁)
        hsession (by rw [hkept₁]; exact h.nbFilters) lib hdir hlo (by rw [hslots]; exact hhi)
        (fun a ha => by rw [hlist]; exact hf a ha)
      refine .inr ⟨⟨c₁.pcapPath, rfl⟩, ⟨fun _ => hopens, fun hne => absurd hidle hne⟩, ?_⟩
      refine ⟨hthrough.inv, hthrough.active, ?_, ?_, ?_, fun hreg hok => ?_⟩
      · rw [hthrough.nbFilters, hkept₁]
      · rw [hthrough.slots, hkept₁]
      · rw [hthrough.initialized, hkept₁]
      · exact hthrough.registered (hreg.kept hkept₁) (by rw [hactive]; exact hok)
  · rw [if_neg hidle]
    have hup : SessionIs true c := by
      have hsession := h.session
      rwa [decide_eq_true hidle] at hsession
    by_cases hpaused : c.paused = true
    · rw [if_pos hpaused]
      refine .inl ⟨⟨_, rfl⟩, fun hgoes => ?_, rfl, h.session⟩
      rw [hgoes.unpaused hidle] at hpaused
      exact absurd hpaused (by decide)
    · rw [if_neg hpaused]
      refine .inr ⟨⟨c.pcapPath, rfl⟩,
        ⟨fun hzero => absurd hzero hidle, fun _ => Bool.not_eq_true _ ▸ hpaused⟩, ?_⟩
      exact turnOn_cameThrough h.counted h.callbacks hup h.nbFilters lib hdir hlo hhi hf

/-! ### Texts -/

/-- The letter a text starts with. -/
def starts (text : String) : Option Char := text.toList.head?

theorem starts_append {a : String} {ch : Char} (b : String) (h : starts a = some ch) :
    starts (a ++ b) = some ch := by
  unfold starts at h ⊢
  rw [String.toList_append, List.head?_append, h]
  rfl

theorem starts_tooMany : starts pdumpTooManyFilters = some 't' := by decide

theorem pdumpCheck_text {userCount dir subscriber : Nat} {err : String}
    (h : pdumpCheck c userCount dir subscriber = some err) : starts err ≠ some 't' := by
  unfold pdumpCheck at h
  by_cases hinit : (!c.initialized) = true
  · rw [if_pos hinit] at h
    rw [← Option.some.inj h]
    decide
  rw [if_neg hinit] at h
  by_cases hdir : (pdumpDirPorts dir).isEmpty = true
  · rw [if_pos hdir] at h
    rw [← Option.some.inj h]
    decide
  rw [if_neg hdir] at h
  by_cases hsub : userCount < subscriber
  · rw [if_pos hsub] at h
    have hs : starts "subscriber " = some 's' := by decide
    rw [← Option.some.inj h, starts_append _ (starts_append _ hs)]
    decide
  rw [if_neg hsub] at h
  by_cases hnone : userCount = 0
  · rw [if_pos hnone] at h
    rw [← Option.some.inj h]
    decide
  · rw [if_neg hnone] at h
    exact absurd h (by simp)

theorem pdumpCaptureOpen_text {err : String} (h : (pdumpCaptureOpen lib c).1 = .error err) :
    starts err ≠ some 't' := by
  unfold pdumpCaptureOpen at h
  simp only at h
  cases hmp : lib.mempoolErr with
  | some text =>
      rw [hmp] at h
      have hs : starts "cannot create capture mempool: " = some 'c' := by decide
      rw [← Except.error.inj h, starts_append _ hs]
      decide
  | none =>
      rw [hmp] at h
      cases hring : lib.ringErr with
      | some text =>
          rw [hring] at h
          have hs : starts "cannot create capture ring: " = some 'c' := by decide
          rw [← Except.error.inj h, starts_append _ hs]
          decide
      | none =>
          rw [hring] at h
          simp only at h
          by_cases hopen : (!lib.fopenOk) = true
          · rw [if_pos hopen] at h
            have hs : starts "cannot open " = some 'c' := by decide
            rw [← Except.error.inj h, starts_append _ hs]
            decide
          rw [if_neg hopen] at h
          by_cases hheader : (!lib.headerOk) = true
          · rw [if_pos hheader] at h
            rw [← Except.error.inj h]
            decide
          rw [if_neg hheader] at h
          by_cases hthread : (!lib.pthreadOk) = true
          · rw [if_pos hthread] at h
            rw [← Except.error.inj h]
            decide
          · rw [if_neg hthread] at h
            exact absurd h (by simp)

theorem pdumpStartSlots_text {userCount : Nat} {err : String}
    (h : (pdumpStartSlots dev lib userCount req f c).1 = .error err) : starts err ≠ some 't' := by
  unfold pdumpStartSlots at h
  simp only at h
  by_cases hidle : c.anyActive = 0
  · rw [if_pos hidle] at h
    generalize hopened : pdumpCaptureOpen lib _ = opened at h
    obtain ⟨result, c₁⟩ := opened
    cases result with
    | ok _ => exact absurd h (by simp)
    | error text =>
        rw [← Except.error.inj h]
        exact pdumpCaptureOpen_text (congrArg Prod.fst hopened)
  · rw [if_neg hidle] at h
    by_cases hpaused : c.paused = true
    · rw [if_pos hpaused] at h
      rw [← Except.error.inj h]
      decide
    · rw [if_neg hpaused] at h
      exact absurd h (by simp)

/-! ### A start -/

/-- A start comes as far as the filter, and its filter is compiled. -/
structure PdumpReq.Admitted (req : PdumpReq) (lib : PdumpLib) (userCount : Nat) (c : PdumpCtx) :
    Prop where
  check : pdumpCheck c userCount req.dir req.subscriber = none
  length : (req.filter.getD []).length ≤ pdumpMaxFilterLen
  room : req.filtered = true → c.nbFilters < pdumpMaxFilters
  compiles : req.filtered = true → lib.compileErr = none

/-- A compiled filter more. -/
def PdumpCtx.addFilter (c : PdumpCtx) : PdumpCtx :=
  { c with
    filterList := c.nextFilter :: c.filterList
    nextFilter := c.nextFilter + 1
    nbFilters := c.nbFilters + 1 }

/-- A start is refused and changes nothing, or it comes behind the filter. -/
theorem fastrgPdumpStart_cases (dev : PdumpDev) (lib : PdumpLib) (userCount : Nat) (req : PdumpReq)
    (c : PdumpCtx) :
    (¬ req.Admitted lib userCount c ∧
        ∃ err, fastrgPdumpStart dev lib userCount req c = (.error err, c) ∧
          (err = pdumpTooManyFilters → lib.compileErr ≠ some pdumpTooManyFilters →
            (pdumpMaxFilters : Int) ≤ c.nbFilters)) ∨
      (req.Admitted lib userCount c ∧
        ((req.filtered = false ∧
            fastrgPdumpStart dev lib userCount req c =
              pdumpStartSlots dev lib userCount req none c) ∨
          (req.filtered = true ∧
            fastrgPdumpStart dev lib userCount req c =
              pdumpStartSlots dev lib userCount req (some c.nextFilter) c.addFilter))) := by
  have hnot : ∀ {err : String}, starts err ≠ some 't' → err = pdumpTooManyFilters →
      lib.compileErr ≠ some pdumpTooManyFilters → (pdumpMaxFilters : Int) ≤ c.nbFilters := by
    intro err htext heq
    rw [heq] at htext
    exact absurd starts_tooMany htext
  unfold fastrgPdumpStart
  cases hcheck : pdumpCheck c userCount req.dir req.subscriber with
  | some err =>
      refine .inl ⟨fun hadm => ?_, err, rfl, hnot (pdumpCheck_text hcheck)⟩
      exact absurd (hcheck.symm.trans hadm.check) (by simp)
  | none =>
      simp only
      by_cases hlen : pdumpMaxFilterLen < (req.filter.getD []).length
      · rw [if_pos hlen]
        have hs : starts "filter too long (max " = some 'f' := by decide
        refine .inl ⟨fun hadm => ?_, _, rfl, hnot ?_⟩
        · exact absurd hadm.length (by omega)
        · rw [starts_append _ (starts_append _ hs)]
          decide
      rw [if_neg hlen]
      cases hfiltered : req.filtered with
      | false =>
          refine .inr ⟨⟨hcheck, by omega, ?_, ?_⟩, .inl ⟨rfl, rfl⟩⟩
          · intro h
            exact absurd (hfiltered.symm.trans h) (by decide)
          · intro h
            exact absurd (hfiltered.symm.trans h) (by decide)
      | true =>
          rw [if_pos rfl]
          by_cases hfull : c.nbFilters ≥ pdumpMaxFilters
          · rw [if_pos hfull]
            refine .inl ⟨fun hadm => ?_, _, rfl, fun _ _ => hfull⟩
            exact absurd (hadm.room hfiltered) (by omega)
          rw [if_neg hfull]
          unfold pdumpCompileFilter
          cases hcompile : lib.compileErr with
          | some err =>
              refine .inl ⟨fun hadm => ?_, err, rfl, fun heq hne => ?_⟩
              · exact absurd (hcompile.symm.trans (hadm.compiles hfiltered)) (by simp)
              · rw [heq] at hne
                exact absurd rfl hne
          | none =>
              refine .inr ⟨⟨hcheck, by omega, fun _ => by omega, fun _ => hcompile⟩, .inr ⟨rfl, ?_⟩⟩
              rfl

theorem PdumpInv.addFilter (h : PdumpInv dev c) : PdumpInv dev c.addFilter := by
  refine ⟨⟨h.counted.active, h.counted.sum, h.counted.inRange, ?_⟩,
    ⟨h.callbacks.rx, h.callbacks.tx⟩,
    ⟨h.session.ring, h.session.mp, h.session.pcapFp, h.session.writerStarted,
      h.session.writerRunning⟩, ?_⟩
  · intro p ccb a ha
    exact ⟨(h.counted.filters p ccb a ha).1,
      List.mem_cons_of_mem _ (h.counted.filters p ccb a ha).2⟩
  · show c.nbFilters + 1 = ((c.nextFilter :: c.filterList).length : Int)
    rw [h.nbFilters, List.length_cons]
    rfl

/-- The range of a request that passes the checks is in range. -/
theorem pdumpCheck_range {userCount dir subscriber : Nat}
    (h : pdumpCheck c userCount dir subscriber = none) :
    (pdumpDirPorts dir).isEmpty = false ∧ pdumpLo subscriber ≤ pdumpHi userCount subscriber ∧
      pdumpHi userCount subscriber < userCount := by
  unfold pdumpCheck at h
  by_cases hinit : (!c.initialized) = true
  · rw [if_pos hinit] at h
    exact absurd h (by simp)
  rw [if_neg hinit] at h
  by_cases hdir : (pdumpDirPorts dir).isEmpty = true
  · rw [if_pos hdir] at h
    exact absurd h (by simp)
  rw [if_neg hdir] at h
  by_cases hsub : userCount < subscriber
  · rw [if_pos hsub] at h
    exact absurd h (by simp)
  rw [if_neg hsub] at h
  by_cases hnone : userCount = 0
  · rw [if_pos hnone] at h
    exact absurd h (by simp)
  refine ⟨Bool.not_eq_true _ ▸ hdir, ?_⟩
  unfold pdumpLo pdumpHi
  by_cases hall : subscriber = 0
  · rw [if_pos hall, if_pos hall]
    omega
  · rw [if_neg hall, if_neg hall]
    omega

/-- A filter is compiled only for a start that goes on, and then every registration on a port that
was idle succeeds. -/
structure PdumpReq.CleanIn (req : PdumpReq) (dev : PdumpDev) (lib : PdumpLib) (c : PdumpCtx) :
    Prop where
  goesOn : req.filtered = true → lib.GoesOn c
  registers : lib.GoesOn c →
    ∀ port ∈ pdumpDirPorts req.dir, c.activePerPort port = 0 → lib.Registers dev port

/-- What a start comes to. -/
structure StartDone (dev : PdumpDev) (lib : PdumpLib) (userCount : Nat) (req : PdumpReq)
    (c : PdumpCtx) (r : Except String String × PdumpCtx) : Prop where
  inv : PdumpInv dev r.2
  slots : r.2.slots = c.slots
  initialized : r.2.initialized = c.initialized
  ok : r.1.isOk = true → r.2.anyActive ≠ 0 ∧
    r.2.nbFilters = c.nbFilters + if req.filtered = true then 1 else 0
  registered : (req.Admitted lib userCount c → req.CleanIn dev lib c) → Registered dev c →
    Registered dev r.2
  error : (req.Admitted lib userCount c → req.CleanIn dev lib c) → r.1.isOk = false →
    Unchanged c r.2

/-- A start that does not go on has changed nothing but what the opening leaves behind. -/
theorem unchanged_of_kept (h : PdumpInv dev c) (hkept : SlotsKept c c')
    (hsession : SessionIs (decide (c.anyActive ≠ 0)) c') : Unchanged c c' := by
  have hring := hsession.ring.trans h.session.ring.symm
  have hmp := hsession.mp.trans h.session.mp.symm
  have hfp := hsession.pcapFp.trans h.session.pcapFp.symm
  have hstarted := hsession.writerStarted.trans h.session.writerStarted.symm
  have hrunning := hsession.writerRunning.trans h.session.writerRunning.symm
  refine ⟨?_, ?_, ?_, ?_, ?_, ?_, ?_, ?_, hring, hmp, hfp, hstarted, hrunning⟩
  all_goals rw [hkept]

theorem PdumpInv.kept (h : PdumpInv dev c) (hkept : SlotsKept c c')
    (hsession : SessionIs (decide (c.anyActive ≠ 0)) c') : PdumpInv dev c' := by
  have hactive : c'.anyActive = c.anyActive := by rw [hkept]
  refine ⟨h.counted.kept hkept, h.callbacks.kept hkept, ?_, ?_⟩
  · rw [hactive]
    exact hsession
  · rw [hkept]
    exact h.nbFilters

theorem fastrgPdumpStart_done (h : PdumpInv dev c) (lib : PdumpLib) {userCount : Nat}
    (hroom : userCount ≤ c.slots) (req : PdumpReq) :
    StartDone dev lib userCount req c (fastrgPdumpStart dev lib userCount req c) := by
  rcases fastrgPdumpStart_cases dev lib userCount req c with
    ⟨-, err, hstart, -⟩ | ⟨hadm, ⟨hfiltered, hstart⟩ | ⟨hfiltered, hstart⟩⟩
  · rw [hstart]
    exact ⟨h, rfl, rfl, fun hok => absurd hok (by simp [Except.isOk, Except.toBool]),
      fun _ hreg => hreg, fun _ _ => .refl c⟩
  · obtain ⟨hdir, hlo, hhi⟩ := pdumpCheck_range hadm.check
    rw [hstart]
    rcases pdumpStartSlots_cases (f := none) h lib userCount req hdir hlo (by omega)
        (fun a ha => absurd ha (by simp)) with
      ⟨⟨err, herr⟩, -, hkept, hsession⟩ | ⟨⟨path, hpath⟩, hgoes, hthrough⟩
    · refine ⟨h.kept hkept hsession, by rw [hkept], by rw [hkept], fun hok => ?_,
        fun _ hreg => hreg.kept hkept, fun _ _ => unchanged_of_kept h hkept hsession⟩
      rw [herr] at hok
      exact absurd hok (by simp [Except.isOk, Except.toBool])
    · refine ⟨hthrough.inv, hthrough.slots, hthrough.initialized, fun _ => ⟨hthrough.active, ?_⟩,
        fun hclean hreg => hthrough.registered hreg ((hclean hadm).registers hgoes),
        fun _ herr => ?_⟩
      · rw [hthrough.nbFilters, if_neg (by rw [hfiltered]; decide), Int.add_zero]
      · rw [hpath] at herr
        exact absurd herr (by simp [Except.isOk, Except.toBool])
  · obtain ⟨hdir, hlo, hhi⟩ := pdumpCheck_range hadm.check
    rw [hstart]
    rcases pdumpStartSlots_cases (f := some c.nextFilter) h.addFilter lib userCount req hdir hlo
        (Nat.lt_of_lt_of_le hhi hroom)
        (fun a ha => by rw [← Option.mem_some.mp ha]; exact List.mem_cons_self) with
      ⟨⟨err, herr⟩, hnot, hkept, hsession⟩ | ⟨⟨path, hpath⟩, hgoes, hthrough⟩
    · -- The filter is on the list by now.
      have hnever : ¬ (req.Admitted lib userCount c → req.CleanIn dev lib c) := by
        intro hclean
        have hgoes := (hclean hadm).goesOn hfiltered
        exact hnot ⟨hgoes.opens, hgoes.unpaused⟩
      refine ⟨h.addFilter.kept hkept hsession, by rw [hkept]; rfl, by rw [hkept]; rfl,
        fun hok => ?_, fun hclean => absurd hclean hnever, fun hclean => absurd hclean hnever⟩
      rw [herr] at hok
      exact absurd hok (by simp [Except.isOk, Except.toBool])
    · have hgoes' : lib.GoesOn c := ⟨hgoes.opens, hgoes.unpaused⟩
      refine ⟨hthrough.inv, hthrough.slots, hthrough.initialized, fun _ => ⟨hthrough.active, ?_⟩,
        fun hclean hreg => ?_, fun _ herr => ?_⟩
      · rw [hthrough.nbFilters, if_pos hfiltered]
        rfl
      · exact hthrough.registered ⟨hreg.rx, hreg.tx⟩ ((hclean hadm).registers hgoes')
      · rw [hpath] at herr
        exact absurd herr (by simp [Except.isOk, Except.toBool])

/-! ### A stop -/

/-- What is left of a capture when slots have been turned off. -/
structure StopDone (dev : PdumpDev) (c c' : PdumpCtx) : Prop where
  inv : PdumpInv dev c'
  slots : c'.slots = c.slots
  initialized : c'.initialized = c.initialized
  registered : Registered dev c → Registered dev c'
  nbFilters : c'.nbFilters = if c'.anyActive = 0 then 0 else c.nbFilters

theorem pdumpEndIfIdle_done (h : PdumpInv dev c) (hact : c.anyActive ≠ 0)
    (hstop : Stopped dev c c') : StopDone dev c (pdumpEndIfIdle c') := by
  have hkept := hstop.kept
  have hup : SessionIs true c' := by
    have hsession := h.session
    rw [decide_eq_true hact] at hsession
    exact hsession.kept hkept
  unfold pdumpEndIfIdle
  by_cases hidle : c'.anyActive = 0
  · rw [if_pos hidle]
    have hend : pdumpCaptureTeardown c' = { c' with
        writerRunning := false
        writerStarted := false
        pcapFp := false
        ring := false
        mp := false
        filterList := []
        nbFilters := 0
        filter := fun port ccb => if ccb < c'.slots then none else c'.filter port ccb } := by
      unfold pdumpCaptureTeardown
      rw [if_pos hup.writerStarted]
    rw [hend]
    refine ⟨⟨⟨hstop.counted.active, hstop.counted.sum, hstop.counted.inRange, ?_⟩,
      ⟨hstop.callbacks.rx, hstop.callbacks.tx⟩, ?_, rfl⟩, ?_, ?_,
      fun hreg => ⟨(hstop.registered hreg).rx, (hstop.registered hreg).tx⟩, ?_⟩
    · intro p ccb a ha
      -- Nothing is captured, so no filter was in use.
      have hdown := (active_eq_zero hstop.counted p).mp
        ((anyActive_eq_zero hstop.counted).mp hidle p) ccb
      have ha' : (if ccb < c'.slots then none else c'.filter p ccb) = some a := ha
      by_cases hlt : ccb < c'.slots
      · rw [if_pos hlt] at ha'
        exact absurd ha' (by simp)
      · rw [if_neg hlt] at ha'
        rw [(hstop.counted.filters p ccb a ha').1] at hdown
        exact absurd hdown (by decide)
    · show SessionIs (decide (c'.anyActive ≠ 0)) _
      rw [hidle]
      exact ⟨rfl, rfl, rfl, rfl, rfl⟩
    · show c'.slots = c.slots
      rw [hkept]
    · show c'.initialized = c.initialized
      rw [hkept]
    · exact (if_pos hidle).symm
  · rw [if_neg hidle]
    refine ⟨⟨hstop.counted, hstop.callbacks, ?_, ?_⟩, ?_, ?_, hstop.registered, ?_⟩
    · rw [decide_eq_true hidle]
      exact hup
    · rw [hkept]
      exact h.nbFilters
    · rw [hkept]
    · rw [hkept]
    · rw [if_neg hidle, hkept]

theorem fastrgPdumpStop_done (h : PdumpInv dev c) (userCount dir subscriber : Nat) :
    (fastrgPdumpStop userCount dir subscriber c).2 = c ∨
      StopDone dev c (fastrgPdumpStop userCount dir subscriber c).2 := by
  unfold fastrgPdumpStop
  cases pdumpCheck c userCount dir subscriber with
  | some err => exact .inl rfl
  | none =>
      simp only
      by_cases hidle : c.anyActive = 0
      · rw [if_pos hidle]
        exact .inl rfl
      · rw [if_neg hidle]
        exact .inr (pdumpEndIfIdle_done h hidle
          (pdumpStopRange_stopped h.counted h.callbacks _ _ _))

theorem fastrgPdumpDisableCcb_done (h : PdumpInv dev c) (toRemove currentCount : Nat) :
    (fastrgPdumpDisableCcb toRemove currentCount c).2 = c ∨
      StopDone dev c (fastrgPdumpDisableCcb toRemove currentCount c).2 := by
  unfold fastrgPdumpDisableCcb
  by_cases hno : (!c.initialized) = true ∨ toRemove = 0
  · rw [if_pos hno]
    exact .inl rfl
  rw [if_neg hno]
  by_cases hbad : toRemove > currentCount ∨ currentCount > c.slots
  · rw [if_pos hbad]
    exact .inl rfl
  rw [if_neg hbad]
  by_cases hact : c.anyActive > 0
  · rw [if_pos hact]
    exact .inr (pdumpEndIfIdle_done h (by omega)
      (pdumpStopRange_stopped h.counted h.callbacks _ _ _))
  · rw [if_neg hact]
    exact .inl rfl

/-! ### Runs -/

/-- The guard of the runs in which what nothing looks at succeeds. -/
def PdumpOp.Clean (dev : PdumpDev) (s : Pdump) : PdumpOp → Prop
  | .start lib req => req.Admitted lib s.userCount s.ctx → req.CleanIn dev lib s.ctx
  | _ => True

/-- A capture, and how many starts with a filter have succeeded since it was idle. -/
structure PdumpRun where
  capture : Pdump
  filteredStarts : Nat

/-- The call is a start with a filter, and it succeeds. -/
def PdumpRun.filteredStart (dev : PdumpDev) (r : PdumpRun) : PdumpOp → Bool
  | .start lib req =>
      req.filtered && (fastrgPdumpStart dev lib r.capture.userCount req r.capture.ctx).1.isOk
  | _ => false

def PdumpRun.step (dev : PdumpDev) (r : PdumpRun) (op : PdumpOp) : PdumpRun where
  capture := r.capture.step dev op
  filteredStarts :=
    if (r.capture.step dev op).ctx.anyActive = 0 then 0
    else if r.filteredStart dev op then r.filteredStarts + 1
    else r.filteredStarts

/-- A node that has just come up. -/
def PdumpRun.boot (maxUserCount : Nat) : PdumpRun :=
  ⟨⟨fastrgPdumpCaptureInit maxUserCount, 0⟩, 0⟩

/-- What a call keeps in every run; and, as long as the calls are clean, what they keep besides. -/
structure RunInv (dev : PdumpDev) (clean : Prop) (r : PdumpRun) : Prop where
  inv : PdumpInv dev r.capture.ctx
  room : r.capture.userCount ≤ r.capture.ctx.slots
  registered : clean → Registered dev r.capture.ctx
  filters : clean → r.capture.ctx.nbFilters = r.filteredStarts
  idle : r.capture.ctx.anyActive = 0 → r.filteredStarts = 0

theorem runInv_boot (dev : PdumpDev) (clean : Prop) (maxUserCount : Nat) :
    RunInv dev clean (.boot maxUserCount) := by
  have hcount : ∀ p : Port, (0 : Int) = count (fun _ : Nat => false) maxUserCount := by
    intro _
    rw [count_eq_zero.mpr fun _ _ => rfl]
    rfl
  refine ⟨⟨⟨hcount, rfl, ?_, ?_⟩, ⟨?_, ?_⟩, ⟨rfl, rfl, rfl, rfl, rfl⟩, rfl⟩, Nat.zero_le _,
    fun _ => ⟨?_, ?_⟩, fun _ => rfl, fun _ => rfl⟩
  · intro p ccb hup
    exact absurd hup (by simp [PdumpRun.boot, fastrgPdumpCaptureInit])
  · intro p ccb a ha
    exact absurd ha (by simp [PdumpRun.boot, fastrgPdumpCaptureInit])
  · intro p
    exact ⟨Nat.zero_le _, fun q hq => absurd hq (by simp [PdumpRun.boot, fastrgPdumpCaptureInit])⟩
  · intro p
    exact ⟨Nat.zero_le _, fun q hq => absurd hq (by simp [PdumpRun.boot, fastrgPdumpCaptureInit])⟩
  · intro p hact
    exact absurd rfl hact
  · intro p hact
    exact absurd rfl hact

/-- A call that is no start, and leaves the capture as it was. -/
theorem RunInv.same {clean : Prop} {r : PdumpRun} (h : RunInv dev clean r) (op : PdumpOp)
    (hctx : (r.capture.step dev op).ctx = r.capture.ctx)
    (hroom : (r.capture.step dev op).userCount ≤ r.capture.ctx.slots)
    (hno : r.filteredStart dev op = false) : RunInv dev clean (r.step dev op) := by
  have hghost : (r.step dev op).filteredStarts = r.filteredStarts := by
    unfold PdumpRun.step
    simp only
    rw [hctx, hno]
    by_cases hidle : r.capture.ctx.anyActive = 0
    · rw [if_pos hidle, h.idle hidle]
    · rw [if_neg hidle, if_neg Bool.false_ne_true]
  refine ⟨?_, ?_, ?_, ?_, ?_⟩
  · show PdumpInv dev (r.capture.step dev op).ctx
    rw [hctx]
    exact h.inv
  · show (r.capture.step dev op).userCount ≤ (r.capture.step dev op).ctx.slots
    rw [hctx]
    exact hroom
  · show clean → Registered dev (r.capture.step dev op).ctx
    rw [hctx]
    exact h.registered
  · show clean → (r.capture.step dev op).ctx.nbFilters = _
    rw [hctx, hghost]
    exact h.filters
  · show (r.capture.step dev op).ctx.anyActive = 0 → _
    rw [hctx, hghost]
    exact h.idle

/-- A call that turns slots off. -/
theorem RunInv.stopped {clean : Prop} {r : PdumpRun} (h : RunInv dev clean r) (op : PdumpOp)
    (hstop : StopDone dev r.capture.ctx (r.capture.step dev op).ctx)
    (hcount : (r.capture.step dev op).userCount = r.capture.userCount)
    (hno : r.filteredStart dev op = false) : RunInv dev clean (r.step dev op) := by
  refine ⟨hstop.inv, ?_, fun hclean => hstop.registered (h.registered hclean), fun hclean => ?_,
    fun hidle => if_pos hidle⟩
  · show (r.capture.step dev op).userCount ≤ (r.capture.step dev op).ctx.slots
    rw [hcount, hstop.slots]
    exact h.room
  · show (r.capture.step dev op).ctx.nbFilters = ((r.step dev op).filteredStarts : Int)
    rw [hstop.nbFilters]
    unfold PdumpRun.step
    simp only
    by_cases hidle : (r.capture.step dev op).ctx.anyActive = 0
    · rw [if_pos hidle, if_pos hidle]
      rfl
    · rw [if_neg hidle, if_neg hidle, hno, if_neg Bool.false_ne_true]
      exact h.filters hclean

/-- A start. -/
theorem RunInv.started {clean : Prop} {r : PdumpRun} (h : RunInv dev clean r) (lib : PdumpLib)
    (req : PdumpReq) (hop : clean → (PdumpOp.start lib req).Clean dev r.capture) :
    RunInv dev clean (r.step dev (.start lib req)) := by
  have hdone := fastrgPdumpStart_done h.inv lib h.room req
  refine ⟨hdone.inv, ?_, fun hclean => hdone.registered (hop hclean) (h.registered hclean),
    fun hclean => ?_, fun hidle => if_pos hidle⟩
  · show r.capture.userCount ≤
      (fastrgPdumpStart dev lib r.capture.userCount req r.capture.ctx).2.slots
    rw [hdone.slots]
    exact h.room
  · have hfilters := h.filters hclean
    show (fastrgPdumpStart dev lib r.capture.userCount req r.capture.ctx).2.nbFilters =
      ((if (fastrgPdumpStart dev lib r.capture.userCount req r.capture.ctx).2.anyActive = 0 then 0
        else if (req.filtered &&
            (fastrgPdumpStart dev lib r.capture.userCount req r.capture.ctx).1.isOk) = true
          then r.filteredStarts + 1
        else r.filteredStarts : Nat) : Int)
    cases hok : (fastrgPdumpStart dev lib r.capture.userCount req r.capture.ctx).1.isOk with
    | true =>
        obtain ⟨hactive, hnb⟩ := hdone.ok hok
        rw [if_neg hactive, hnb, hfilters]
        cases req.filtered with
        | true => rfl
        | false => exact Int.add_zero _
    | false =>
        have hsame := hdone.error (hop hclean) hok
        rw [hsame.nbFilters, hsame.anyActive, hfilters, Bool.and_false, if_neg Bool.false_ne_true]
        by_cases hidle : r.capture.ctx.anyActive = 0
        · rw [if_pos hidle, h.idle hidle]
        · rw [if_neg hidle]

theorem PdumpRun.step_inv (dev : PdumpDev) (clean : Prop) (r : PdumpRun) (op : PdumpOp)
    (h : RunInv dev clean r) (hop : clean → op.Clean dev r.capture) :
    RunInv dev clean (r.step dev op) := by
  cases op with
  | start lib req => exact h.started lib req hop
  | stop dir subscriber =>
      rcases fastrgPdumpStop_done h.inv r.capture.userCount dir subscriber with hsame | hstop
      · exact h.same _ hsame h.room rfl
      · exact h.stopped _ hstop rfl rfl
  | disableCcb toRemove currentCount =>
      rcases fastrgPdumpDisableCcb_done h.inv toRemove currentCount with hsame | hstop
      · exact h.same _ hsame h.room rfl
      · exact h.stopped _ hstop rfl rfl
  | setUserCount newCount =>
      by_cases hbad : newCount = 0 ∨ r.capture.ctx.slots < newCount
      · have hstep : r.capture.step dev (.setUserCount newCount) = r.capture := if_pos hbad
        refine h.same _ ?_ ?_ rfl
        · rw [hstep]
        · rw [hstep]
          exact h.room
      · have hstep : r.capture.step dev (.setUserCount newCount) =
            { r.capture with userCount := newCount } := if_neg hbad
        refine h.same _ ?_ ?_ rfl
        · rw [hstep]
        · rw [hstep]
          show newCount ≤ r.capture.ctx.slots
          omega
  | sizeLimitReached =>
      by_cases hrunning : r.capture.ctx.writerRunning = true
      · have hstep : r.capture.step dev .sizeLimitReached =
            { r.capture with ctx := { r.capture.ctx with paused := true } } := if_pos hrunning
        have hkept : SlotsKept r.capture.ctx { r.capture.ctx with paused := true } := rfl
        have hup := h.inv.session
        refine ⟨?_, ?_, ?_, ?_, fun hidle => if_pos hidle⟩
        · show PdumpInv dev (r.capture.step dev .sizeLimitReached).ctx
          rw [hstep]
          exact h.inv.kept hkept
            ⟨hup.ring, hup.mp, hup.pcapFp, hup.writerStarted, hup.writerRunning⟩
        · show (r.capture.step dev .sizeLimitReached).userCount ≤
            (r.capture.step dev .sizeLimitReached).ctx.slots
          rw [hstep]
          exact h.room
        · show clean → Registered dev (r.capture.step dev .sizeLimitReached).ctx
          rw [hstep]
          exact fun hclean => (h.registered hclean).kept hkept
        · intro hclean
          show (r.capture.step dev .sizeLimitReached).ctx.nbFilters =
            ((if (r.capture.step dev .sizeLimitReached).ctx.anyActive = 0 then 0
              else r.filteredStarts : Nat) : Int)
          rw [hstep]
          show r.capture.ctx.nbFilters =
            ((if r.capture.ctx.anyActive = 0 then 0 else r.filteredStarts : Nat) : Int)
          rw [h.filters hclean]
          by_cases hidle : r.capture.ctx.anyActive = 0
          · rw [if_pos hidle, h.idle hidle]
          · rw [if_neg hidle]
      · have hstep : r.capture.step dev .sizeLimitReached = r.capture := if_neg hrunning
        refine h.same _ ?_ ?_ rfl
        · rw [hstep]
        · rw [hstep]
          exact h.room

/--
**A capture keeps its books.**

In every run the counters are the numbers of subscribers that are captured, a callback that is there
is on a port that is not idle, the file, the ring, the pool and the writer are there exactly while
anything is captured, and every filter in use is on the list, whose length is known.

In every run of clean calls a port that is not idle has its callbacks besides, a clean start that
fails leaves everything as it was, and a start is refused for too many filters only after that many
starts with a filter have succeeded in the session.
-/
theorem pdump_keeps_books (dev : PdumpDev) (maxUserCount : Nat) {ops ops' : List PdumpOp}
    {r r' : PdumpRun}
    (hrun : Run (PdumpRun.step dev) (fun _ _ => True) (.boot maxUserCount) ops r)
    (hclean : Run (PdumpRun.step dev) (fun r op => op.Clean dev r.capture) (.boot maxUserCount)
      ops' r') :
    PdumpInv dev r.capture.ctx ∧ PdumpInv dev r'.capture.ctx ∧ Registered dev r'.capture.ctx ∧
      ∀ lib req err, (fastrgPdumpStart dev lib r'.capture.userCount req r'.capture.ctx).1 =
          .error err →
        ((PdumpOp.start lib req).Clean dev r'.capture →
          Unchanged r'.capture.ctx
            (fastrgPdumpStart dev lib r'.capture.userCount req r'.capture.ctx).2) ∧
        (err = pdumpTooManyFilters → lib.compileErr ≠ some pdumpTooManyFilters →
          pdumpMaxFilters ≤ r'.filteredStarts) := by
  have h := hrun.inv (RunInv dev False)
    (fun r op hr _ => r.step_inv dev False op hr False.elim) (runInv_boot dev False maxUserCount)
  have h' := hclean.inv (RunInv dev True)
    (fun r op hr hop => r.step_inv dev True op hr fun _ => hop) (runInv_boot dev True maxUserCount)
  refine ⟨h.inv, h'.inv, h'.registered trivial, fun lib req err herr => ⟨fun hop => ?_, ?_⟩⟩
  · refine (fastrgPdumpStart_done h'.inv lib h'.room req).error hop ?_
    rw [herr]
    rfl
  · intro hmany hcompile
    have hfilters := h'.filters trivial
    rcases fastrgPdumpStart_cases dev lib r'.capture.userCount req r'.capture.ctx with
      ⟨-, err', hstart, hfull⟩ | ⟨-, ⟨-, hstart⟩ | ⟨-, hstart⟩⟩
    · rw [hstart] at herr
      have := hfull ((Except.error.inj herr).trans hmany) hcompile
      omega
    · rw [hstart] at herr
      exact absurd (hmany ▸ starts_tooMany) (pdumpStartSlots_text herr)
    · rw [hstart] at herr
      exact absurd (hmany ▸ starts_tooMany) (pdumpStartSlots_text herr)

/-! ### One subscriber -/

/-- Libraries of which everything succeeds, but for making the pool and asking the device. -/
def pdumpLib (mempoolErr : Option String) (devInfoOk : Bool) : PdumpLib :=
  ⟨none, mempoolErr, none, true, true, true, "/var/log/fastrg", 0, fun _ => devInfoOk,
    fun _ _ => true, fun _ _ => true⟩

/-- A capture of the first subscriber on the WAN, with a filter. -/
def pdumpReq : PdumpReq := ⟨1, 1, some [0x69, 0x70], 0⟩

/-- One queue each way. -/
def pdumpDev : PdumpDev := ⟨fun _ => 1, fun _ => 1⟩

/-- A subscriber is configured, and captured. -/
def pdumpCalls (lib : PdumpLib) : List PdumpOp := [.setUserCount 1, .start lib pdumpReq]

def pdumpAfter (lib : PdumpLib) : PdumpRun :=
  (pdumpCalls lib).foldl (PdumpRun.step pdumpDev) (.boot 1)

/-- When everything succeeds the callback is there, and one filter has been used. -/
theorem pdump_keeps_books_filtered :
    (pdumpAfter (pdumpLib none true)).filteredStarts = 1 ∧
      (pdumpAfter (pdumpLib none true)).capture.ctx.activePerPort .wan = 1 ∧
      PdumpInv pdumpDev (pdumpAfter (pdumpLib none true)).capture.ctx ∧
      Registered pdumpDev (pdumpAfter (pdumpLib none true)).capture.ctx := by
  have hclean : Run (PdumpRun.step pdumpDev) (fun r op => op.Clean pdumpDev r.capture) (.boot 1)
      (pdumpCalls (pdumpLib none true)) (pdumpAfter (pdumpLib none true)) := by
    refine (Run.nil.snoc (PdumpOp.setUserCount 1) trivial).snoc
      (PdumpOp.start (pdumpLib none true) pdumpReq) ?_
    intro _
    refine ⟨fun _ => ⟨fun _ => ⟨rfl, rfl, rfl, rfl, rfl⟩, fun _ => rfl⟩, fun _ _ _ _ => ?_⟩
    exact ⟨fun _ _ => ⟨rfl, rfl⟩, fun _ _ => ⟨rfl, rfl⟩⟩
  have h := pdump_keeps_books pdumpDev 1
    (Run.of_labels _ (pdumpCalls (pdumpLib none true)) fun _ _ _ => trivial) hclean
  exact ⟨by decide, by decide, h.2.1, h.2.2.1⟩

/-- When the pool cannot be made the start fails, and its filter stays; when the device is not known
the start succeeds, and nothing is captured. -/
theorem pdump_failed_start_keeps_filter :
    ((fastrgPdumpStart pdumpDev (pdumpLib (some "File exists") true) 1 pdumpReq
          (fastrgPdumpCaptureInit 1)).1.isOk = false ∧
        ¬ Unchanged (fastrgPdumpCaptureInit 1)
          (fastrgPdumpStart pdumpDev (pdumpLib (some "File exists") true) 1 pdumpReq
            (fastrgPdumpCaptureInit 1)).2 ∧
        (pdumpAfter (pdumpLib (some "File exists") true)).capture.ctx.nbFilters ≠
          (pdumpAfter (pdumpLib (some "File exists") true)).filteredStarts) ∧
      ¬ Registered pdumpDev (pdumpAfter (pdumpLib none false)).capture.ctx := by
  refine ⟨⟨by decide, fun hsame => ?_, by decide⟩, fun hreg => ?_⟩
  · exact absurd hsame.nbFilters (by decide)
  · exact absurd (hreg.rx .wan (by decide) 0 (by decide)) (by decide)

end FastRG
