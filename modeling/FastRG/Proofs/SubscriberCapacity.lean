/-
The subscribers that are admitted fit.

The cost of one subscriber is a sum of charges, each rounded up, and every pool is charged once for
what does not grow with it.  So what the pools take together for `n` subscribers is no more than `n`
times the cost and the fixed part, and the quotient leaves room for that and the reserve.

The machine's sums are the true ones as long as the cost of one subscriber, and for each pool whose
objects share pages a page for each object of one subscriber, stay within 64 bits.  Nothing checks
that; the pools there are stay far below it.
-/
import FastRG.SubscriberCapacity
import Mathlib.Tactic.Ring

namespace FastRG

variable {dpdk : DpdkSizes} {x : CapacityInputs} {pool : CcbPool} {ppp : CcbMemoryInfo}

/-! ### Machine words -/

/-- A sum less one, of words that are not both zero. -/
theorem toNat_add_sub_one {a b : BitVec 64} (hpos : 0 < a.toNat + b.toNat)
    (hfit : a.toNat + b.toNat ≤ 18446744073709551616) :
    (a + b - 1).toNat = a.toNat + b.toNat - 1 := by
  rw [BitVec.toNat_sub, BitVec.toNat_add]
  have hone : (1 : BitVec 64).toNat = 1 := rfl
  rw [hone]
  omega

theorem toNat_mul_of_lt {a b : BitVec 64} (hfit : a.toNat * b.toNat < 18446744073709551616) :
    (a * b).toNat = a.toNat * b.toNat := by
  rw [BitVec.toNat_mul]
  exact Nat.mod_eq_of_lt hfit

theorem toNat_add_of_lt {a b : BitVec 64} (hfit : a.toNat + b.toNat < 18446744073709551616) :
    (a + b).toNat = a.toNat + b.toNat := by
  rw [BitVec.toNat_add]
  exact Nat.mod_eq_of_lt hfit

theorem toNat_widen (a : BitVec 32) : (a.setWidth 64).toNat = a.toNat := by
  rw [BitVec.toNat_setWidth]
  have := a.isLt
  exact Nat.mod_eq_of_lt (by omega)

/-! ### The true sums -/

/-- The object of a pool, with what DPDK puts around it. -/
def CcbPool.elt (pool : CcbPool) (dpdk : DpdkSizes) : Nat := (dpdk.calcObjSize pool.eltSize).toNat

/-- What a pool adds to the cost of one subscriber, without wrapping. -/
def CcbPool.cost (pool : CcbPool) (dpdk : DpdkSizes) (page : Nat) : Nat :=
  Paging.charged page (pool.elt dpdk) pool.objsPerSub.toNat + 16 * pool.objsPerSub.toNat

/-- What a pool costs once. -/
def CcbPool.fixed (pool : CcbPool) (dpdk : DpdkSizes) : Nat :=
  pool.elt dpdk - 1 + rteRingGetMemsize dpdk 1 + 16

namespace CapacityInputs

def infoCost (x : CapacityInputs) (info : CcbMemoryInfo) : Nat :=
  sumPools (fun pool => pool.cost x.dpdk x.page) info.pools + info.plainBytesPerSub.toNat

/-- The cost of one subscriber, without wrapping. -/
def trueCost (x : CapacityInputs) (ppp : CcbMemoryInfo) : Nat :=
  x.infoCost ppp + x.infoCost x.dhcp + x.statsBytes

/-- The values the machine multiplies on the way to the cost of a pool. -/
def products (x : CapacityInputs) (pool : CcbPool) : List Nat :=
  [16 * pool.objsPerSub.toNat, pool.objsPerSub.toNat * pool.eltSize.toNat] ++
    if x.page = 0 then [pool.elt x.dpdk * pool.objsPerSub.toNat]
    else if x.page / pool.elt x.dpdk = 0 then
      [(pool.elt x.dpdk + x.page - 1) / x.page * x.page * pool.objsPerSub.toNat]
    else [pool.objsPerSub.toNat * x.page]

/-- The cost stays within 64 bits, and so does a page for each object where objects share pages. -/
structure Fits (x : CapacityInputs) (ppp : CcbMemoryInfo) : Prop where
  cost : x.trueCost ppp < 18446744073709551616
  pages : ∀ pool ∈ ppp.pools ++ x.dhcp.pools, x.page / pool.elt x.dpdk ≠ 0 →
    pool.objsPerSub.toNat * x.page + x.page / pool.elt x.dpdk ≤ 18446744073709551616

end CapacityInputs

theorem elt_lt (pool : CcbPool) (dpdk : DpdkSizes) : pool.elt dpdk < 4294967296 :=
  (dpdk.calcObjSize pool.eltSize).isLt

theorem sumPools_nil (f : CcbPool → Nat) : sumPools f [] = 0 := rfl

theorem sumPools_cons (f : CcbPool → Nat) (pool : CcbPool) (rest : List CcbPool) :
    sumPools f (pool :: rest) = f pool + sumPools f rest := rfl

/-- A pool is part of its sum. -/
theorem le_sumPools (f : CcbPool → Nat) {pools : List CcbPool} (h : pool ∈ pools) :
    f pool ≤ sumPools f pools := by
  induction pools with
  | nil => exact absurd h List.not_mem_nil
  | cons first rest ih =>
      rw [sumPools_cons]
      rcases List.mem_cons.mp h with rfl | hrest
      · exact Nat.le_add_right _ _
      · exact Nat.le_trans (ih hrest) (Nat.le_add_left _ _)

/-- A bound of each pool is one of the sum. -/
theorem sumPools_le (f : CcbPool → Nat) (pools : List CcbPool) {b : Nat} (h : ∀ pool, f pool ≤ b) :
    sumPools f pools ≤ pools.length * b := by
  induction pools with
  | nil => exact Nat.zero_le _
  | cons first rest ih =>
      rw [sumPools_cons, List.length_cons, Nat.succ_mul]
      have := h first
      omega

/-! ### One pool -/

/-- The machine's span of a pool is its charge. -/
theorem fastrgGetMempoolSpanBytes_toNat {span : BitVec 64}
    (hcharge : Paging.charged x.page (pool.elt x.dpdk) pool.objsPerSub.toNat < 18446744073709551616)
    (hpages : x.page / pool.elt x.dpdk ≠ 0 →
      pool.objsPerSub.toNat * x.page + x.page / pool.elt x.dpdk ≤ 18446744073709551616)
    (h : fastrgGetMempoolSpanBytes x.dpdk x.pageSize pool.eltSize pool.objsPerSub = some span) :
    span.toNat = Paging.charged x.page (pool.elt x.dpdk) pool.objsPerSub.toNat := by
  have helt := elt_lt pool x.dpdk
  have htotal : (fastrgGetRealMempoolEltSizeInHugepage x.dpdk pool.eltSize).toNat =
      pool.elt x.dpdk := toNat_widen _
  have hobjs : (pool.objsPerSub.setWidth 64).toNat = pool.objsPerSub.toNat := toNat_widen _
  unfold fastrgGetMempoolSpanBytes at h
  simp only at h
  generalize fastrgGetRealMempoolEltSizeInHugepage x.dpdk pool.eltSize = total at h htotal
  by_cases hnone : pool.objsPerSub = 0 ∨ total = 0
  · rw [if_pos hnone] at h
    rw [← Option.some.inj h]
    rcases hnone with hnone | hnone
    · rw [hnone]
      exact (Paging.charged_none _ _).symm
    · rw [← htotal, hnone]
      exact (Paging.charged_zero _ _).symm
  rw [if_neg hnone] at h
  have hpos : 0 < pool.elt x.dpdk := by
    rw [← htotal]
    exact Nat.pos_of_ne_zero fun hzero => hnone (.inr (BitVec.eq_of_toNat_eq hzero))
  have hobjsPos : 0 < pool.objsPerSub.toNat :=
    Nat.pos_of_ne_zero fun hzero => hnone (.inl (BitVec.eq_of_toNat_eq hzero))
  cases hpage : x.pageSize with
  | none =>
      rw [hpage] at h
      exact absurd h (by simp)
  | some pageSize =>
      rw [hpage] at h
      simp only at h
      have hnat : x.page = pageSize.toNat := by
        unfold CapacityInputs.page
        rw [hpage]
        rfl
      rw [hnat] at hcharge hpages ⊢
      unfold Paging.charged at hcharge ⊢
      by_cases hno : pageSize = 0
      · rw [if_pos hno] at h
        have hzero : pageSize.toNat = 0 := by rw [hno]; rfl
        rw [if_pos hzero] at hcharge ⊢
        rw [← Option.some.inj h, toNat_mul_of_lt, htotal, hobjs]
        rw [htotal, hobjs]
        exact hcharge
      rw [if_neg hno] at h
      have hpagePos : pageSize.toNat ≠ 0 := fun hzero => hno (BitVec.eq_of_toNat_eq hzero)
      rw [if_neg hpagePos] at hcharge ⊢
      have hper : (pageSize / total).toNat = pageSize.toNat / pool.elt x.dpdk := by
        rw [BitVec.toNat_udiv, htotal]
      by_cases hlarge : pageSize / total = 0
      · rw [if_pos hlarge] at h
        have hlarge' : pageSize.toNat / pool.elt x.dpdk = 0 := by rw [← hper, hlarge]; rfl
        have hless : pageSize.toNat < pool.elt x.dpdk :=
          Nat.lt_of_not_le fun hle => absurd hlarge' (Nat.pos_iff_ne_zero.mp (Nat.div_pos hle hpos))
        rw [if_pos hlarge'] at hcharge ⊢
        have hpagesPerObj : ((total + pageSize - 1) / pageSize).toNat =
            (pool.elt x.dpdk + pageSize.toNat - 1) / pageSize.toNat := by
          rw [BitVec.toNat_udiv, toNat_add_sub_one (by omega) (by omega), htotal]
        have hwhole : ((total + pageSize - 1) / pageSize * pageSize).toNat =
            (pool.elt x.dpdk + pageSize.toNat - 1) / pageSize.toNat * pageSize.toNat := by
          rw [toNat_mul_of_lt, hpagesPerObj]
          rw [hpagesPerObj]
          exact Nat.lt_of_le_of_lt (Nat.le_mul_of_pos_right _ hobjsPos) hcharge
        rw [← Option.some.inj h, toNat_mul_of_lt, hwhole, hobjs]
        rw [hwhole, hobjs]
        exact hcharge
      · rw [if_neg hlarge] at h
        have hlarge' : pageSize.toNat / pool.elt x.dpdk ≠ 0 := by
          rw [← hper]
          exact fun hzero => hlarge (BitVec.eq_of_toNat_eq hzero)
        rw [if_neg hlarge']
        have hfit := hpages hlarge'
        have hprod : (pool.objsPerSub.setWidth 64 * pageSize).toNat =
            pool.objsPerSub.toNat * pageSize.toNat := by
          rw [toNat_mul_of_lt, hobjs]
          rw [hobjs]
          omega
        rw [← Option.some.inj h, BitVec.toNat_udiv, toNat_add_sub_one, hprod, hper]
        · rw [hper]
          omega
        · rw [hprod, hper]
          exact hfit

/-! ### The sums -/

theorem fastrgGetMempoolFixedUsageBytes_toNat (dpdk : DpdkSizes) (pool : CcbPool) :
    (fastrgGetMempoolFixedUsageBytes dpdk pool.eltSize).toNat = pool.fixed dpdk ∧
      pool.fixed dpdk ≤ 4311744512 := by
  have helt := elt_lt pool dpdk
  have htotal : (fastrgGetRealMempoolEltSizeInHugepage dpdk pool.eltSize).toNat =
      pool.elt dpdk := toNat_widen _
  have hlines := dpdk.ringHdrLines.isLt
  have hring : rteRingGetMemsize dpdk 1 ≤ 4194304 + 72 := by
    unfold rteRingGetMemsize
    omega
  have hslack : (if fastrgGetRealMempoolEltSizeInHugepage dpdk pool.eltSize = 0 then (0 : BitVec 64)
      else fastrgGetRealMempoolEltSizeInHugepage dpdk pool.eltSize - 1).toNat =
      pool.elt dpdk - 1 := by
    by_cases hzero : fastrgGetRealMempoolEltSizeInHugepage dpdk pool.eltSize = 0
    · rw [if_pos hzero, ← htotal, hzero]
      rfl
    · rw [if_neg hzero, BitVec.toNat_sub, htotal]
      have hone : (1 : BitVec 64).toNat = 1 := rfl
      have hpos : pool.elt dpdk ≠ 0 := by
        rw [← htotal]
        exact fun h => hzero (BitVec.eq_of_toNat_eq h)
      rw [hone]
      omega
  have hfixed : pool.fixed dpdk = pool.elt dpdk - 1 + rteRingGetMemsize dpdk 1 + 16 := rfl
  refine ⟨?_, by omega⟩
  unfold fastrgGetMempoolFixedUsageBytes
  simp only
  rw [BitVec.toNat_add, BitVec.toNat_add, hslack, BitVec.toNat_ofNat, hfixed]
  have hsixteen : (16 : BitVec 64).toNat = 16 := rfl
  rw [hsixteen]
  omega

/-- What the loop has charged so far. -/
structure ChargedSo (sums : CapacitySums) (cost fixed : Nat) : Prop where
  cost : sums.cost.toNat = cost
  fixed : sums.fixed.toNat = fixed

/-- One pool is charged. -/
theorem ChargedSo.add {sums sums' : CapacitySums} {cost fixed : Nat} (h : ChargedSo sums cost fixed)
    (hcost : cost + pool.cost x.dpdk x.page < 18446744073709551616)
    (hfixed : fixed + pool.fixed x.dpdk < 18446744073709551616)
    (hpages : x.page / pool.elt x.dpdk ≠ 0 →
      pool.objsPerSub.toNat * x.page + x.page / pool.elt x.dpdk ≤ 18446744073709551616)
    (hcharge : x.chargePool sums pool = some sums') :
    ChargedSo sums' (cost + pool.cost x.dpdk x.page) (fixed + pool.fixed x.dpdk) := by
  obtain ⟨span, hspan, rfl⟩ := Option.map_eq_some_iff.mp hcharge
  have hcharged : pool.cost x.dpdk x.page =
      Paging.charged x.page (pool.elt x.dpdk) pool.objsPerSub.toNat +
        16 * pool.objsPerSub.toNat := rfl
  have hspan' := fastrgGetMempoolSpanBytes_toNat (by omega) hpages hspan
  have hobjs := pool.objsPerSub.isLt
  have hring : (16 * pool.objsPerSub.setWidth 64 : BitVec 64).toNat =
      16 * pool.objsPerSub.toNat := by
    rw [toNat_mul_of_lt, toNat_widen]
    · rfl
    · rw [toNat_widen]
      show 16 * pool.objsPerSub.toNat < _
      omega
  have hpool : (span + 16 * pool.objsPerSub.setWidth 64 : BitVec 64).toNat =
      pool.cost x.dpdk x.page := by
    rw [toNat_add_of_lt, hspan', hring, hcharged]
    rw [hspan', hring]
    omega
  have hfixed' := (fastrgGetMempoolFixedUsageBytes_toNat x.dpdk pool).1
  refine ⟨?_, ?_⟩
  · show (sums.cost + (span + 16 * pool.objsPerSub.setWidth 64)).toNat = _
    rw [toNat_add_of_lt, h.cost, hpool]
    rw [h.cost, hpool]
    exact hcost
  · show (sums.fixed + fastrgGetMempoolFixedUsageBytes x.dpdk pool.eltSize).toNat = _
    rw [toNat_add_of_lt, h.fixed, hfixed']
    rw [h.fixed, hfixed']
    exact hfixed

/-- The pools of a module are charged. -/
theorem ChargedSo.pools (pools : List CcbPool) {sums sums' : CapacitySums} {cost fixed : Nat}
    (h : ChargedSo sums cost fixed)
    (hcost : cost + sumPools (fun pool => pool.cost x.dpdk x.page) pools < 18446744073709551616)
    (hfixed : fixed + sumPools (fun pool => pool.fixed x.dpdk) pools < 18446744073709551616)
    (hpages : ∀ pool ∈ pools, x.page / pool.elt x.dpdk ≠ 0 →
      pool.objsPerSub.toNat * x.page + x.page / pool.elt x.dpdk ≤ 18446744073709551616)
    (hcharge : pools.foldlM x.chargePool sums = some sums') :
    ChargedSo sums' (cost + sumPools (fun pool => pool.cost x.dpdk x.page) pools)
      (fixed + sumPools (fun pool => pool.fixed x.dpdk) pools) := by
  induction pools generalizing sums cost fixed with
  | nil =>
      rw [← Option.some.inj (show some sums = some sums' from hcharge)]
      exact h
  | cons pool rest ih =>
      rw [sumPools_cons] at hcost hfixed ⊢
      rw [sumPools_cons]
      rw [List.foldlM_cons] at hcharge
      obtain ⟨sums₁, hfirst, hrest⟩ := Option.bind_eq_some_iff.mp hcharge
      have h₁ := h.add (by omega) (by omega) (hpages pool List.mem_cons_self) hfirst
      have h₂ := ih h₁ (by omega) (by omega)
        (fun p hp => hpages p (List.mem_cons_of_mem pool hp)) hrest
      rwa [Nat.add_assoc, Nat.add_assoc] at h₂

/-- A module is charged. -/
theorem ChargedSo.info {info : CcbMemoryInfo} {sums sums' : CapacitySums} {cost fixed : Nat}
    (h : ChargedSo sums cost fixed)
    (hcost : cost + x.infoCost info < 18446744073709551616)
    (hfixed : fixed + sumPools (fun pool => pool.fixed x.dpdk) info.pools < 18446744073709551616)
    (hpages : ∀ pool ∈ info.pools, x.page / pool.elt x.dpdk ≠ 0 →
      pool.objsPerSub.toNat * x.page + x.page / pool.elt x.dpdk ≤ 18446744073709551616)
    (hcharge : x.chargeInfo sums info = some sums') :
    ChargedSo sums' (cost + x.infoCost info)
      (fixed + sumPools (fun pool => pool.fixed x.dpdk) info.pools) := by
  have hcost' : x.infoCost info =
      sumPools (fun pool => pool.cost x.dpdk x.page) info.pools +
        info.plainBytesPerSub.toNat := rfl
  have hplain : ChargedSo { sums with
      plainBytes := sums.plainBytes + info.plainBytesPerSub
      cost := sums.cost + info.plainBytesPerSub } (cost + info.plainBytesPerSub.toNat) fixed := by
    refine ⟨?_, h.fixed⟩
    show (sums.cost + info.plainBytesPerSub).toNat = _
    rw [toNat_add_of_lt, h.cost]
    rw [h.cost]
    omega
  have hsums := hplain.pools info.pools (by omega) hfixed hpages hcharge
  refine ⟨?_, hsums.fixed⟩
  rw [hsums.cost]
  omega

/-- The rows of counters are counted once for each lcore. -/
theorem statsPerSub_toNat (x : CapacityInputs) (h : x.statsBytes < 18446744073709551616) :
    x.statsPerSub.toNat = x.statsBytes := by
  unfold CapacityInputs.statsBytes at h ⊢
  unfold CapacityInputs.statsPerSub
  generalize x.lcores = lcores at h ⊢
  induction lcores with
  | zero =>
      rw [Nat.zero_mul]
      rfl
  | succ n ih =>
      rw [Nat.succ_mul] at h ⊢
      rw [List.range_succ, List.foldl_append, List.foldl_cons, List.foldl_nil]
      have hbefore := ih (by omega)
      have htwo : (2 * x.perCcbStats.setWidth 64 : BitVec 64).toNat = 2 * x.perCcbStats.toNat := by
        have := x.perCcbStats.isLt
        rw [toNat_mul_of_lt, toNat_widen]
        · rfl
        · rw [toNat_widen]
          show 2 * x.perCcbStats.toNat < _
          omega
      have hwide := toNat_widen x.pppoesLcoreStats
      rw [BitVec.toNat_add, BitVec.toNat_add, hbefore, htwo, hwide]
      omega

/-- The machine's cost is the true one, and the fixed part is small. -/
theorem charge_sums (hfits : x.Fits ppp) {sums : CapacitySums}
    (hcharge : x.charge ppp = some sums) :
    sums.cost.toNat = x.trueCost ppp ∧
      sums.fixed.toNat = sumPools (fun pool => pool.fixed x.dpdk) ppp.pools +
        sumPools (fun pool => pool.fixed x.dpdk) x.dhcp.pools ∧
      sums.fixed.toNat ≤ 34493956096 := by
  have hbound : ∀ info : CcbMemoryInfo,
      sumPools (fun pool => pool.fixed x.dpdk) info.pools ≤ 17246978048 := by
    intro info
    have hall := sumPools_le (fun pool => pool.fixed x.dpdk) info.pools
      fun pool => (fastrgGetMempoolFixedUsageBytes_toNat x.dpdk pool).2
    have hroom : info.pools.length ≤ 4 := info.room
    omega
  have hppp := hbound ppp
  have hdhcp := hbound x.dhcp
  have hcost := hfits.cost
  have htrue : x.trueCost ppp = x.infoCost ppp + x.infoCost x.dhcp + x.statsBytes := rfl
  have hstats := statsPerSub_toNat x (by omega)
  unfold CapacityInputs.charge at hcharge
  rw [List.foldlM_cons] at hcharge
  obtain ⟨sums₁, hfirst, hrest⟩ := Option.bind_eq_some_iff.mp hcharge
  rw [List.foldlM_cons] at hrest
  obtain ⟨sums₂, hsecond, hlast⟩ := Option.bind_eq_some_iff.mp hrest
  have h₀ : ChargedSo ⟨x.statsPerSub, x.statsPerSub, 0⟩ x.statsBytes 0 := ⟨hstats, rfl⟩
  have h₁ := h₀.info (by omega) (by omega)
    (fun p hp => hfits.pages p (List.mem_append_left _ hp)) hfirst
  have h₂ := h₁.info (by omega) (by omega)
    (fun p hp => hfits.pages p (List.mem_append_right _ hp)) hsecond
  rw [← Option.some.inj (show some sums₂ = some sums from hlast), h₂.cost, h₂.fixed]
  refine ⟨by omega, by omega, by omega⟩

/-! ### What is made -/

/-- The next power of two is less than twice as much. -/
theorem rteAlign32pow2_le {m : Nat} (hm : 0 < m) : rteAlign32pow2 (m + 1) ≤ 2 * m := by
  unfold rteAlign32pow2
  rw [if_neg (by omega), Nat.add_sub_cancel, Nat.one_shiftLeft, Nat.pow_succ, Nat.mul_comm]
  exact Nat.mul_le_mul_left 2 (Nat.log2_self_le (by omega))

/-- Sixteen bytes an object pay for the ring, but for the smallest. -/
theorem rteRingGetMemsize_le (dpdk : DpdkSizes) (m : Nat) :
    rteRingGetMemsize dpdk (rteAlign32pow2 (m + 1)) ≤ rteRingGetMemsize dpdk 1 + 16 * m := by
  rcases Nat.eq_zero_or_pos m with rfl | hm
  · exact Nat.le_add_right _ _
  · have hslots := rteAlign32pow2_le hm
    unfold rteRingGetMemsize
    omega

/-- A pool for `n` subscribers takes no more than it has been charged. -/
theorem mempoolBytes_le (dpdk : DpdkSizes) (page n : Nat) (pool : CcbPool) :
    mempoolBytes dpdk page (n * pool.objsPerSub.toNat) pool.eltSize ≤
      n * pool.cost dpdk page + pool.fixed dpdk := by
  have hring := rteRingGetMemsize_le dpdk (n * pool.objsPerSub.toNat)
  have hmem : rteMempoolOpCalcMemSize page (pool.elt dpdk) (n * pool.objsPerSub.toNat) ≤
      n * Paging.charged page (pool.elt dpdk) pool.objsPerSub.toNat + (pool.elt dpdk - 1) := by
    unfold rteMempoolOpCalcMemSize
    by_cases hnone : pool.elt dpdk = 0 ∨ n * pool.objsPerSub.toNat = 0
    · rw [if_pos hnone]
      exact Nat.zero_le _
    rw [if_neg hnone]
    have htaken := Paging.taken_le_charged page (pool.elt dpdk)
      (Nat.pos_of_ne_zero fun hzero => hnone (.inr hzero))
    by_cases hown : page = 0 ∨ page / pool.elt dpdk = 0
    · rw [if_pos hown]
      omega
    · rw [if_neg hown]
      omega
  have hcost : n * pool.cost dpdk page =
      n * Paging.charged page (pool.elt dpdk) pool.objsPerSub.toNat +
        16 * (n * pool.objsPerSub.toNat) := by
    unfold CcbPool.cost
    ring
  have hfixed : pool.fixed dpdk = pool.elt dpdk - 1 + rteRingGetMemsize dpdk 1 + 16 := rfl
  unfold mempoolBytes
  have helt : (dpdk.calcObjSize pool.eltSize).toNat = pool.elt dpdk := rfl
  rw [helt, hcost, hfixed]
  omega

/-- The pools of a module take no more than they have been charged. -/
theorem sumPools_bytes_le (x : CapacityInputs) (n : Nat) (pools : List CcbPool) :
    sumPools (fun pool => mempoolBytes x.dpdk x.page (n * pool.objsPerSub.toNat) pool.eltSize)
        pools ≤
      n * sumPools (fun pool => pool.cost x.dpdk x.page) pools +
        sumPools (fun pool => pool.fixed x.dpdk) pools := by
  induction pools with
  | nil => exact Nat.zero_le _
  | cons pool rest ih =>
      rw [sumPools_cons, sumPools_cons, sumPools_cons, Nat.mul_add]
      have := mempoolBytes_le x.dpdk x.page n pool
      omega

/-- What `n` subscribers take is paid for by `n` times the cost and the fixed part. -/
theorem subscriberBytes_le (x : CapacityInputs) (ppp : CcbMemoryInfo) (n : Nat) :
    x.subscriberBytes ppp n ≤ n * x.trueCost ppp +
      (sumPools (fun pool => pool.fixed x.dpdk) ppp.pools +
        sumPools (fun pool => pool.fixed x.dpdk) x.dhcp.pools) := by
  have hppp := sumPools_bytes_le x n ppp.pools
  have hdhcp := sumPools_bytes_le x n x.dhcp.pools
  unfold CapacityInputs.subscriberBytes CapacityInputs.trueCost CapacityInputs.infoBytes
    CapacityInputs.infoCost
  rw [Nat.mul_add, Nat.mul_add, Nat.mul_add, Nat.mul_add]
  omega

/-! ### The quotient -/

/-- The clamped quotient is paid for, when there is room for one subscriber at all. -/
theorem capacity_paid {freeBytes overhead cost : BitVec 64}
    (hcount : minUserCount ≤ subscriberQuotient freeBytes overhead cost) :
    (fastrgGetSubscriberCapacity freeBytes overhead cost).toNat ≤ 2000 ∧
      (fastrgGetSubscriberCapacity freeBytes overhead cost).toNat * cost.toNat + overhead.toNat ≤
        freeBytes.toNat := by
  have hmin : minUserCount.toNat = 1 := rfl
  have hmax : maxUserCount.toNat = 2000 := rfl
  have hle : (fastrgGetSubscriberCapacity freeBytes overhead cost).toNat ≤ 2000 ∧
      (fastrgGetSubscriberCapacity freeBytes overhead cost).toNat ≤
        (subscriberQuotient freeBytes overhead cost).toNat := by
    unfold fastrgGetSubscriberCapacity
    simp only
    rw [if_neg (BitVec.not_lt.mpr hcount)]
    by_cases hbig : maxUserCount < subscriberQuotient freeBytes overhead cost
    · rw [if_pos hbig]
      exact ⟨Nat.le_of_eq hmax, Nat.le_of_lt (BitVec.lt_def.mp hbig)⟩
    · rw [if_neg hbig]
      have := BitVec.le_def.mp (BitVec.not_lt.mp hbig)
      omega
  refine ⟨hle.1, ?_⟩
  have hone := BitVec.le_def.mp hcount
  have hquot : (subscriberQuotient freeBytes overhead cost).toNat * cost.toNat +
      overhead.toNat ≤ freeBytes.toNat := by
    unfold subscriberQuotient at hone ⊢
    simp only at hone ⊢
    by_cases hcost : 0 < cost
    · rw [if_pos hcost] at hone ⊢
      by_cases hroom : overhead < freeBytes
      · rw [if_pos hroom, BitVec.toNat_udiv]
        have hlt := BitVec.lt_def.mp hroom
        have hbudget : (freeBytes - overhead).toNat = freeBytes.toNat - overhead.toNat :=
          BitVec.toNat_sub_of_le (BitVec.le_of_lt hroom)
        rw [hbudget]
        have := Nat.div_mul_le_self (freeBytes.toNat - overhead.toNat) cost.toNat
        omega
      · -- With nothing left the quotient is no number of subscribers.
        rw [if_neg hroom, BitVec.toNat_udiv] at hone
        exact absurd hone (by rw [hmin]; simp)
    · rw [if_neg hcost] at hone
      exact absurd hone (by rw [hmin]; simp)
  have hmul := Nat.mul_le_mul_right cost.toNat hle.2
  omega

/-- What is multiplied on the way stays within 64 bits. -/
theorem products_fit (hfits : x.Fits ppp) (hpool : pool ∈ ppp.pools ++ x.dhcp.pools) {v : Nat}
    (hv : v ∈ x.products pool) : v < 18446744073709551616 := by
  have hobjs := pool.objsPerSub.isLt
  have helt := pool.eltSize.isLt
  have htotal := elt_lt pool x.dpdk
  have hcost : Paging.charged x.page (pool.elt x.dpdk) pool.objsPerSub.toNat <
      18446744073709551616 := by
    have hin : pool.cost x.dpdk x.page ≤ x.trueCost ppp := by
      unfold CapacityInputs.trueCost CapacityInputs.infoCost
      rcases List.mem_append.mp hpool with hmem | hmem
      · have := le_sumPools (fun pool => pool.cost x.dpdk x.page) hmem
        omega
      · have := le_sumPools (fun pool => pool.cost x.dpdk x.page) hmem
        omega
    have hless : Paging.charged x.page (pool.elt x.dpdk) pool.objsPerSub.toNat ≤
        pool.cost x.dpdk x.page := Nat.le_add_right _ _
    have := hfits.cost
    omega
  have hpages := hfits.pages pool hpool
  unfold CapacityInputs.products at hv
  unfold Paging.charged at hcost
  rcases List.mem_append.mp hv with hv | hv
  · rcases List.mem_cons.mp hv with rfl | hv
    · omega
    · rw [List.mem_singleton.mp hv]
      exact Nat.lt_of_le_of_lt (Nat.mul_le_mul (Nat.le_of_lt_succ hobjs) (Nat.le_of_lt_succ helt))
        (by decide)
  · by_cases hpage : x.page = 0
    · rw [if_pos hpage] at hv hcost
      rw [List.mem_singleton.mp hv]
      exact hcost
    rw [if_neg hpage] at hv hcost
    by_cases hper : x.page / pool.elt x.dpdk = 0
    · rw [if_pos hper] at hv hcost
      rw [List.mem_singleton.mp hv]
      exact hcost
    · rw [if_neg hper] at hv
      rw [List.mem_singleton.mp hv]
      have hfit := hpages hper
      have hpos := Nat.pos_of_ne_zero hper
      omega

/-! ### The pools there are -/

/-- The sizes of the modules, as they report them, on a machine with pages of at most 64 TiB. -/
structure CapacityInputs.Own (x : CapacityInputs) (sizes : CcbSizes) (probe : BitVec 64) :
    Prop where
  ppp : x.ppp = pppdGetSubscriberRealSize sizes (some probe)
  dhcp : x.dhcp = dhcpGetSubscriberRealSize sizes
  page : x.page ≤ 70368744177664
  probe : probe.toNat ≤ 4611686018427387904
  lcores : x.lcores ≤ 65536

/-- What the calls of `rte_mempool_create` make. -/
def CapacityInputs.callsBytes (x : CapacityInputs) (calls : List MempoolCall) : Nat :=
  calls.foldr (fun call sum => mempoolBytes x.dpdk x.page call.n.toNat call.eltSize + sum) 0

theorem cost_le (pool : CcbPool) (dpdk : DpdkSizes) {page : Nat} (objs : Nat)
    (hobjs : pool.objsPerSub.toNat = objs) (hpage : page ≤ 70368744177664) :
    pool.cost dpdk page ≤ objs * 70373039144976 := by
  have hcharged := Paging.charged_le page (pool.elt dpdk) pool.objsPerSub.toNat
  have helt := elt_lt pool dpdk
  unfold CcbPool.cost
  rw [hobjs] at hcharged ⊢
  have hmul : objs * (pool.elt dpdk + page) ≤ objs * (4294967296 + 70368744177664) :=
    Nat.mul_le_mul_left objs (by omega)
  omega

/-- The pools there are stay within 64 bits. -/
theorem own_fits {sizes : CcbSizes} {probe : BitVec 64} (h : x.Own sizes probe)
    (hppp : x.ppp = some ppp) : x.Fits ppp := by
  have hppp' : (⟨probe + 8, [⟨1, sizes.pppCcb⟩], (show 1 ≤ 4 by decide)⟩ : CcbMemoryInfo) = ppp :=
    Option.some.inj (h.ppp.symm.trans hppp)
  have hdhcp := h.dhcp
  have hpage := h.page
  have hppp₁ := cost_le ⟨1, sizes.pppCcb⟩ x.dpdk 1 rfl hpage
  have hdhcp₁ := cost_le ⟨1, sizes.dhcpCcb⟩ x.dpdk 1 rfl hpage
  have hdhcp₂ := cost_le ⟨dhcpPoolObjs, sizes.dhcpCcbPerLanUser⟩ x.dpdk
    131072 (show dhcpPoolObjs.toNat = 131072 by decide) hpage
  refine ⟨?_, ?_⟩
  · have hprobe := h.probe
    have hplain : (probe + 8).toNat ≤ 4611686018427387912 := by
      have height : (8 : BitVec 64).toNat = 8 := rfl
      rw [BitVec.toNat_add, height]
      omega
    have hstats : x.statsBytes ≤ 65536 * 12884901888 := by
      have h₁ := x.perCcbStats.isLt
      have h₂ := x.pppoesLcoreStats.isLt
      exact Nat.mul_le_mul h.lcores (by omega)
    have harray : (dhcpPoolObjs.setWidth 64 * 8 + 8 : BitVec 64).toNat = 1048584 := by
      decide
    have hinfo₁ : x.infoCost ppp =
        CcbPool.cost ⟨1, sizes.pppCcb⟩ x.dpdk x.page + (probe + 8).toNat := by
      rw [← hppp']
      unfold CapacityInputs.infoCost
      rw [sumPools_cons, sumPools_nil, Nat.add_zero]
    have hinfo₂ : x.infoCost x.dhcp =
        CcbPool.cost ⟨1, sizes.dhcpCcb⟩ x.dpdk x.page +
          CcbPool.cost ⟨dhcpPoolObjs, sizes.dhcpCcbPerLanUser⟩ x.dpdk x.page +
          (dhcpPoolObjs.setWidth 64 * 8 + 8 : BitVec 64).toNat := by
      rw [hdhcp]
      unfold CapacityInputs.infoCost dhcpGetSubscriberRealSize
      rw [sumPools_cons, sumPools_cons, sumPools_nil, Nat.add_zero]
    have hcost : x.trueCost ppp = x.infoCost ppp + x.infoCost x.dhcp + x.statsBytes := rfl
    omega
  · intro pool hpool _
    have hobjs : pool.objsPerSub.toNat ≤ 131072 := by
      rw [← hppp', hdhcp] at hpool
      rcases List.mem_cons.mp hpool with rfl | hpool
      · show (1 : BitVec 32).toNat ≤ 131072
        decide
      rcases List.mem_cons.mp hpool with rfl | hpool
      · show (1 : BitVec 32).toNat ≤ 131072
        decide
      · rw [List.mem_singleton.mp hpool]
        show dhcpPoolObjs.toNat ≤ 131072
        decide
    have hmul : pool.objsPerSub.toNat * x.page ≤ 131072 * 70368744177664 :=
      Nat.mul_le_mul hobjs hpage
    have hdiv := Nat.div_le_self x.page (pool.elt x.dpdk)
    omega

/-- The pools that are made are the pools that have been counted. -/
theorem own_calls {sizes : CcbSizes} {probe : BitVec 64} (h : x.Own sizes probe)
    (hppp : x.ppp = some ppp) {n : BitVec 16} (hn : n.toNat ≤ 2000) :
    x.callsBytes (pppdInitMempools sizes n ++ dhcpInitMempools sizes n) =
      sumPools (fun pool => mempoolBytes x.dpdk x.page (n.toNat * pool.objsPerSub.toNat)
        pool.eltSize) (ppp.pools ++ x.dhcp.pools) := by
  have hppp' : (⟨probe + 8, [⟨1, sizes.pppCcb⟩], (show 1 ≤ 4 by decide)⟩ : CcbMemoryInfo) = ppp :=
    Option.some.inj (h.ppp.symm.trans hppp)
  have hwide : (n.setWidth 32).toNat = n.toNat := by
    rw [BitVec.toNat_setWidth]
    exact Nat.mod_eq_of_lt (by omega)
  have hone : n.toNat * (1 : BitVec 32).toNat = n.toNat := Nat.mul_one _
  have hmany : (dhcpPoolObjs * n.setWidth 32).toNat =
      n.toNat * dhcpPoolObjs.toNat := by
    have hsize : dhcpPoolObjs.toNat = 131072 := rfl
    rw [BitVec.toNat_mul, hwide, hsize]
    omega
  have hpools : ppp.pools ++ x.dhcp.pools = [⟨1, sizes.pppCcb⟩, ⟨1, sizes.dhcpCcb⟩,
      ⟨dhcpPoolObjs, sizes.dhcpCcbPerLanUser⟩] := by
    rw [← hppp', h.dhcp]
    rfl
  rw [hpools]
  unfold CapacityInputs.callsBytes pppdInitMempools dhcpInitMempools
  rw [List.singleton_append, sumPools_cons, sumPools_cons, sumPools_cons, sumPools_nil,
    List.foldr_cons, List.foldr_cons, List.foldr_cons, List.foldr_nil, hwide, hmany, hone]

/--
**The subscribers that are admitted fit.**

Where the cost of one subscriber stays within 64 bits, and in each pool a page for each of its
objects that share pages, a quotient that is at least `MIN_USER_COUNT` gives a number of subscribers
whose pools and arrays, with the reserve, take no more than the heap has free, and nothing that is
multiplied wraps.

The pools of `pppd.c` and `dhcpd.c` are such, whatever the sizes of their objects, and those that
are made for the subscribers are those that were counted.
-/
theorem subscribers_fit :
    (∀ (x : CapacityInputs) (ppp : CcbMemoryInfo) (sums : CapacitySums), x.ppp = some ppp →
      x.Fits ppp → x.charge ppp = some sums →
      minUserCount ≤ subscriberQuotient x.freeBytes (hugepageReserveBytes + sums.fixed) sums.cost →
      ∃ n : BitVec 16, fastrgComputeMaxUserCount x = some (n, sums.cost) ∧ n.toNat ≤ 2000 ∧
        x.subscriberBytes ppp n.toNat + hugepageReserveBytes.toNat ≤ x.freeBytes.toNat ∧
        ∀ pool ∈ ppp.pools ++ x.dhcp.pools, ∀ v ∈ x.products pool, v < 18446744073709551616) ∧
    ∀ (x : CapacityInputs) (sizes : CcbSizes) (probe : BitVec 64), x.Own sizes probe →
      ∃ ppp, x.ppp = some ppp ∧ x.Fits ppp ∧
        ∀ n : BitVec 16, n.toNat ≤ 2000 →
          x.callsBytes (pppdInitMempools sizes n ++ dhcpInitMempools sizes n) =
            sumPools (fun pool => mempoolBytes x.dpdk x.page (n.toNat * pool.objsPerSub.toNat)
              pool.eltSize) (ppp.pools ++ x.dhcp.pools) := by
  refine ⟨fun x ppp sums hppp hfits hcharge hcount => ?_, fun x sizes probe hown => ?_⟩
  · obtain ⟨hcost, hfixed, hsmall⟩ := charge_sums hfits hcharge
    obtain ⟨hmax, hpaid⟩ := capacity_paid hcount
    have hreserve : hugepageReserveBytes.toNat = 536870912 := rfl
    have hoverhead : (hugepageReserveBytes + sums.fixed).toNat =
        hugepageReserveBytes.toNat + sums.fixed.toNat := toNat_add_of_lt (by omega)
    rw [hcost, hoverhead] at hpaid
    generalize hn : fastrgGetSubscriberCapacity x.freeBytes (hugepageReserveBytes + sums.fixed)
      sums.cost = n at hmax hpaid
    have hnarrow : (n.setWidth 16).toNat = n.toNat := by
      rw [BitVec.toNat_setWidth]
      exact Nat.mod_eq_of_lt (by omega)
    refine ⟨n.setWidth 16, ?_, by omega, ?_, ?_⟩
    · unfold fastrgComputeMaxUserCount
      rw [hppp]
      simp only
      rw [hcharge, Option.map_some, hn]
    · have hbytes := subscriberBytes_le x ppp n.toNat
      rw [hnarrow]
      omega
    · exact fun pool hpool v hv => products_fit hfits hpool hv
  · obtain ⟨ppp, hppp⟩ : ∃ ppp, x.ppp = some ppp := ⟨_, hown.ppp⟩
    exact ⟨ppp, hppp, own_fits hown hppp, fun n hn => own_calls hown hppp hn⟩

/-! ### Two machines -/

/-- Objects in whole cache lines, behind a header of one. -/
def dpdkSizes : DpdkSizes := ⟨fun size => (size + 63) / 64 * 64 + 64, 6⟩

def ccbSizes : CcbSizes := ⟨12800, 2048, 128⟩

/-- 4 GiB on one socket, in pages of 2 MiB. -/
def twoMegPages : CapacityInputs where
  dpdk := dpdkSizes
  sockets := [some 4294967296, none]
  pageSize := some 2097152
  lcores := 4
  perCcbStats := 64
  pppoesLcoreStats := 64
  ppp := pppdGetSubscriberRealSize ccbSizes (some 12000000)
  dhcp := dhcpGetSubscriberRealSize ccbSizes

/-- A module with a billion small objects a subscriber, and 64 GiB in pages of 16 GiB. -/
def hugePages : CapacityInputs where
  dpdk := dpdkSizes
  sockets := [some 68719476736]
  pageSize := some 17179869184
  lcores := 0
  perCcbStats := 64
  pppoesLcoreStats := 64
  ppp := some ⟨8, [⟨1, 64⟩], Nat.le_add_right 1 3⟩
  dhcp := ⟨8, [⟨1, 64⟩, ⟨1073741824, 64⟩], Nat.le_add_right 2 2⟩

/-- The 93 subscribers of the first machine fit. -/
theorem subscribers_fit_twoMegPages :
    ∃ ppp, twoMegPages.ppp = some ppp ∧
      fastrgComputeMaxUserCount twoMegPages = some (93, 40328886) ∧
      twoMegPages.subscriberBytes ppp 93 + hugepageReserveBytes.toNat ≤
        twoMegPages.freeBytes.toNat := by
  have hown : twoMegPages.Own ccbSizes 12000000 :=
    ⟨rfl, rfl, by decide, by decide, by decide⟩
  obtain ⟨ppp, hppp, hfits, -⟩ := subscribers_fit.2 twoMegPages ccbSizes 12000000 hown
  refine ⟨ppp, hppp, ?_⟩
  have hppp' : pppdGetSubscriberRealSize ccbSizes (some 12000000) = some ppp := hppp
  obtain rfl := Option.some.inj hppp'
  have hcharge : twoMegPages.charge
      ⟨12000000 + 8, [⟨1, ccbSizes.pppCcb⟩], (show 1 ≤ 4 by decide)⟩ =
      some ⟨29841424, 40328886, 16557⟩ := by
    rfl
  obtain ⟨n, hn, -, hbytes, -⟩ := subscribers_fit.1 twoMegPages _ _ hppp hfits hcharge (by decide)
  have hcount : fastrgComputeMaxUserCount twoMegPages = some (93, 40328886) := by rfl
  obtain rfl : n = 93 := (Prod.mk.inj (Option.some.inj (hn.symm.trans hcount))).1
  exact ⟨hcount, hbytes⟩

/-- On the second machine a page for each object wraps to nothing, and three subscribers are
admitted where there is no room for one. -/
theorem subscribers_overcommit_hugePages :
    ∃ ppp sums, hugePages.ppp = some ppp ∧ hugePages.charge ppp = some sums ∧
      minUserCount ≤ subscriberQuotient hugePages.freeBytes (hugepageReserveBytes + sums.fixed)
        sums.cost ∧
      fastrgComputeMaxUserCount hugePages = some (3, sums.cost) ∧
      ¬ hugePages.subscriberBytes ppp 3 + hugepageReserveBytes.toNat ≤ hugePages.freeBytes.toNat ∧
      ∃ pool ∈ hugePages.dhcp.pools, ∃ v ∈ hugePages.products pool, ¬ v < 18446744073709551616 := by
  refine ⟨⟨8, [⟨1, 64⟩], Nat.le_add_right 1 3⟩, ⟨68719476880, 17179869488, 1773⟩, rfl, by rfl,
    by decide, by rfl, by decide, ⟨1073741824, 64⟩, ?_, 18446744073709551616, ?_, by decide⟩
  · exact List.mem_cons_of_mem _ List.mem_cons_self
  · decide

end FastRG
