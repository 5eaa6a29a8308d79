/-
How many subscribers fit: `init.c`, and the pools of `pppd.c` and `dhcpd.c` it counts.

The sizes are the machine's: products, sums and quotients are taken of 64 bits, as the source takes
them.  What DPDK makes of an object, how long the header of a ring is, what the sockets have free
and what the probe of a control block took are arguments.

At the end stand the pools that are made later, and what they take by DPDK's documentation.  Those
are natural numbers.
-/
import FastRG.Dhcpd
import FastRG.Lib.Paging

namespace FastRG

/-! ### What DPDK says -/

/-- The sizes that are DPDK's. -/
structure DpdkSizes where
  /-- `total_size` of `rte_mempool_calc_obj_size`: the object with its header and trailer. -/
  calcObjSize : BitVec 32 → BitVec 32
  /-- `sizeof(struct rte_ring)`, in cache lines. -/
  ringHdrLines : BitVec 16

/-- `rte_ring_get_memsize`: the header and 8 bytes a slot, in whole cache lines. -/
def rteRingGetMemsize (dpdk : DpdkSizes) (count : Nat) : Nat :=
  (64 * dpdk.ringHdrLines.toNat + 8 * count + 63) / 64 * 64

/-! ### The cost of a pool -/

/-- `fastrg_get_real_mempool_elt_size_in_hugepage`. -/
def fastrgGetRealMempoolEltSizeInHugepage (dpdk : DpdkSizes) (eltSize : BitVec 32) : BitVec 64 :=
  (dpdk.calcObjSize eltSize).setWidth 64

/-- `fastrg_get_mempool_span_bytes`; the page size is `none` when it cannot be determined. -/
def fastrgGetMempoolSpanBytes (dpdk : DpdkSizes) (pageSize : Option (BitVec 64))
    (eltSize objs : BitVec 32) : Option (BitVec 64) :=
  let totalElt := fastrgGetRealMempoolEltSizeInHugepage dpdk eltSize
  if objs = 0 ∨ totalElt = 0 then some 0
  else
    match pageSize with
    | none => none
    | some pageSize =>
        if pageSize = 0 then some (totalElt * objs.setWidth 64)
        else
          let objsPerPage := pageSize / totalElt
          if objsPerPage = 0 then
            let pagesPerObj := (totalElt + pageSize - 1) / pageSize
            some (pagesPerObj * pageSize * objs.setWidth 64)
          else some ((objs.setWidth 64 * pageSize + objsPerPage - 1) / objsPerPage)

/-- `fastrg_get_mempool_fixed_usage_bytes`. -/
def fastrgGetMempoolFixedUsageBytes (dpdk : DpdkSizes) (eltSize : BitVec 32) : BitVec 64 :=
  let totalElt := fastrgGetRealMempoolEltSizeInHugepage dpdk eltSize
  (if totalElt = 0 then 0 else totalElt - 1) + BitVec.ofNat 64 (rteRingGetMemsize dpdk 1) + 16

/-! ### The capacity -/

def minUserCount : BitVec 64 := 1
def maxUserCount : BitVec 64 := 2000

/-- `HUGEPAGE_RESERVE_BYTES`, 512 MiB. -/
def hugepageReserveBytes : BitVec 64 := 536870912

/-- The quotient of `fastrg_get_subscriber_capacity`, before it is clamped. -/
def subscriberQuotient (freeBytes overhead cost : BitVec 64) : BitVec 64 :=
  let budget := if overhead < freeBytes then freeBytes - overhead else 0
  if 0 < cost then budget / cost else 0

/-- `fastrg_get_subscriber_capacity`. -/
def fastrgGetSubscriberCapacity (freeBytes overhead cost : BitVec 64) : BitVec 64 :=
  let n := subscriberQuotient freeBytes overhead cost
  if n < minUserCount then minUserCount else if maxUserCount < n then maxUserCount else n

def capacityMaxPoolsPerDomain : Nat := 4

/-- An element of `pools` of `ccb_memory_info_t`. -/
structure CcbPool where
  objsPerSub : BitVec 32
  eltSize : BitVec 32

/-- `ccb_memory_info_t`: what one subscriber demands of a module. -/
structure CcbMemoryInfo where
  plainBytesPerSub : BitVec 64
  pools : List CcbPool
  room : pools.length ≤ capacityMaxPoolsPerDomain

/-- The sums of the loop of `fastrg_compute_max_user_count`; `plain_bytes` is for the log. -/
structure CapacitySums where
  plainBytes : BitVec 64
  cost : BitVec 64
  fixed : BitVec 64

/-- What `fastrg_compute_max_user_count` finds out before it counts. -/
structure CapacityInputs where
  dpdk : DpdkSizes
  /-- What each socket has free, of those that answer. -/
  sockets : List (Option (BitVec 64))
  pageSize : Option (BitVec 64)
  lcores : Nat
  /-- `sizeof(struct per_ccb_stats)` and `sizeof(struct pppoes_lcore_stats)`. -/
  perCcbStats : BitVec 32
  pppoesLcoreStats : BitVec 32
  /-- What `pppd_get_subscriber_real_size` and `dhcp_get_subscriber_real_size` report. -/
  ppp : Option CcbMemoryInfo
  dhcp : CcbMemoryInfo

namespace CapacityInputs

def freeBytes (x : CapacityInputs) : BitVec 64 :=
  x.sockets.foldl (fun free stats => free + stats.getD 0) 0

/-- The rows of counters each lcore has: `PORT_AMOUNT` and one. -/
def statsPerSub (x : CapacityInputs) : BitVec 64 :=
  (List.range x.lcores).foldl
    (fun s _ => s + 2 * x.perCcbStats.setWidth 64 + x.pppoesLcoreStats.setWidth 64) 0

/-- The inner loop, for one pool. -/
def chargePool (x : CapacityInputs) (sums : CapacitySums) (pool : CcbPool) : Option CapacitySums :=
  (fastrgGetMempoolSpanBytes x.dpdk x.pageSize pool.eltSize pool.objsPerSub).map fun span =>
    { plainBytes := sums.plainBytes + pool.objsPerSub.setWidth 64 * pool.eltSize.setWidth 64
      cost := sums.cost + (span + 16 * pool.objsPerSub.setWidth 64)
      fixed := sums.fixed + fastrgGetMempoolFixedUsageBytes x.dpdk pool.eltSize }

/-- The outer loop, for one module. -/
def chargeInfo (x : CapacityInputs) (sums : CapacitySums) (info : CcbMemoryInfo) :
    Option CapacitySums :=
  info.pools.foldlM x.chargePool
    { sums with
      plainBytes := sums.plainBytes + info.plainBytesPerSub
      cost := sums.cost + info.plainBytesPerSub }

/-- What one subscriber costs, and what all of them together cost once. -/
def charge (x : CapacityInputs) (ppp : CcbMemoryInfo) : Option CapacitySums :=
  [ppp, x.dhcp].foldlM x.chargeInfo ⟨x.statsPerSub, x.statsPerSub, 0⟩

end CapacityInputs

/-- `fastrg_compute_max_user_count`: `max_user_count` and `subscriber_cost_bytes`. -/
def fastrgComputeMaxUserCount (x : CapacityInputs) : Option (BitVec 16 × BitVec 64) :=
  match x.ppp with
  | none => none
  | some ppp =>
      (x.charge ppp).map fun sums =>
        let n :=
          fastrgGetSubscriberCapacity x.freeBytes (hugepageReserveBytes + sums.fixed) sums.cost
        (n.setWidth 16, sums.cost)

/-! ### The modules -/

/-- `DHCP_MAX_POOL_SIZE_PER_USER`, as a number of objects. -/
def dhcpPoolObjs : BitVec 32 := BitVec.ofNat 32 dhcpMaxPoolSizePerUser

/-- `sizeof` of the control blocks. -/
structure CcbSizes where
  pppCcb : BitVec 32
  dhcpCcb : BitVec 32
  dhcpCcbPerLanUser : BitVec 32

/-- `pppd_get_subscriber_real_size`; the probe may fail. -/
def pppdGetSubscriberRealSize (sizes : CcbSizes) (probeBytes : Option (BitVec 64)) :
    Option CcbMemoryInfo :=
  probeBytes.map fun probe => ⟨probe + 8, [⟨1, sizes.pppCcb⟩], (show 1 ≤ 4 by decide)⟩

/-- `dhcp_get_subscriber_real_size`. -/
def dhcpGetSubscriberRealSize (sizes : CcbSizes) : CcbMemoryInfo :=
  ⟨dhcpPoolObjs.setWidth 64 * 8 + 8,
    [⟨1, sizes.dhcpCcb⟩, ⟨dhcpPoolObjs, sizes.dhcpCcbPerLanUser⟩],
    (show 2 ≤ 4 by decide)⟩

/-! ### What is made -/

/-- A call of `rte_mempool_create`. -/
structure MempoolCall where
  n : BitVec 32
  eltSize : BitVec 32

/-- The pool `pppd_init` makes. -/
def pppdInitMempools (sizes : CcbSizes) (maxUserCount : BitVec 16) : List MempoolCall :=
  [⟨maxUserCount.setWidth 32, sizes.pppCcb⟩]

/-- The pools `dhcp_init` makes. -/
def dhcpInitMempools (sizes : CcbSizes) (maxUserCount : BitVec 16) : List MempoolCall :=
  [⟨maxUserCount.setWidth 32, sizes.dhcpCcb⟩,
    ⟨dhcpPoolObjs * maxUserCount.setWidth 32, sizes.dhcpCcbPerLanUser⟩]

/-- `rte_align32pow2`: the next power of two. -/
def rteAlign32pow2 (x : Nat) : Nat := if x ≤ 1 then 1 else 1 <<< (Nat.log2 (x - 1) + 1)

/-- `rte_mempool_op_calc_mem_size_helper`: where the objects share pages, the start of the first may
be out of line by less than an object. -/
def rteMempoolOpCalcMemSize (pageSize totalElt objNum : Nat) : Nat :=
  if totalElt = 0 ∨ objNum = 0 then 0
  else if pageSize = 0 ∨ pageSize / totalElt = 0 then Paging.taken pageSize totalElt objNum
  else Paging.taken pageSize totalElt objNum + (totalElt - 1)

/-- A pool of `objNum` objects: their memory, and the ring they stand in while they are free. -/
def mempoolBytes (dpdk : DpdkSizes) (pageSize objNum : Nat) (eltSize : BitVec 32) : Nat :=
  rteMempoolOpCalcMemSize pageSize (dpdk.calcObjSize eltSize).toNat objNum +
    rteRingGetMemsize dpdk (rteAlign32pow2 (objNum + 1))

/-- A sum over the pools of a module. -/
def sumPools (f : CcbPool → Nat) (pools : List CcbPool) : Nat :=
  pools.foldr (fun pool sum => f pool + sum) 0

namespace CapacityInputs

/-- The page size as a number; where there is none no pool has an object. -/
def page (x : CapacityInputs) : Nat := (x.pageSize.getD 0).toNat

/-- The pools of a module for `n` subscribers, and its arrays. -/
def infoBytes (x : CapacityInputs) (n : Nat) (info : CcbMemoryInfo) : Nat :=
  sumPools (fun pool => mempoolBytes x.dpdk x.page (n * pool.objsPerSub.toNat) pool.eltSize)
    info.pools + n * info.plainBytesPerSub.toNat

/-- The arrays that stand for the lcores. -/
def statsBytes (x : CapacityInputs) : Nat :=
  x.lcores * (2 * x.perCcbStats.toNat + x.pppoesLcoreStats.toNat)

/-- What `n` subscribers take of the heap. -/
def subscriberBytes (x : CapacityInputs) (ppp : CcbMemoryInfo) (n : Nat) : Nat :=
  x.infoBytes n ppp + x.infoBytes n x.dhcp + n * x.statsBytes

end CapacityInputs

end FastRG
