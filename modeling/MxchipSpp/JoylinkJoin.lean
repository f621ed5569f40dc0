/-
  Messages in several packets (joylink_join_packet.c, list/joylink_list.c).

  Twenty slots collect the packets of messages, each slot those of one sender and
  number.  A slot sees the packets it takes in the order they come in
  (`joinRun_collected`); `joylink_join_pkg_join_data` puts them in the order of their
  indices, whatever order they came in and whatever came between them
  (`join_data_of_run`).  But it is not asked to: the count that
  `joylink_join_pkg_add_data` compares with the number of packets is nowhere
  counted, so it never says that a message is complete (`add_data_never_hit`).
  Nor is a slot ever given back: `joylink_join_pkg_clean_node_by_name_id` would
  free one, but only list/test.c calls it, so after twenty senders and numbers no
  other one gets in (`add_data_full`).
-/
import MxchipSpp.JoylinkSecurity
import MxchipSpp.Lib.Slots

namespace MxchipSpp

open Memory

/-! ## The slots -/

/-- `E_JLRetCode_t`, as far as the calls here return it. -/
inductive JLRetCode where
  | errorPkgBreakArray
  | error
  | ok
  | allDataHit
  deriving DecidableEq

/-- `IDNode_t` -/
structure IDNode where
  id : ℕ
  data : List Byte
  deriving DecidableEq

/-- `JLJoinPacket_t`.  `total_len`, an `int` to which lengths of packets are added, is a natural
    number. -/
structure JLJoinPacket where
  name : List Byte
  currentCount : ℕ
  totalLen : ℕ
  id : Byte
  isRun : Bool
  lhead : List IDNode
  phead : JLPacketHead

/-- `JL_MAX_JOIN_PKG_ARRARY` -/
abbrev jlMaxJoinPkgArrary : ℕ := 20

/-- `_g_jps` -/
abbrev JLJoinPackets := Fin jlMaxJoinPkgArrary → JLJoinPacket

/-- The slots at the start. -/
def initJoinPackets : JLJoinPackets := fun _ =>
  { name := [], currentCount := 0, totalLen := 0, id := 0, isRun := false, lhead := [],
    phead := JLPacketHead.ofBytes [] }

/-- `joylink_idnode_add`: `room` is whether there is memory for the node and its data. -/
def joylinkIdnodeAdd (room : Bool) (id : ℕ) (data : List Byte) (lhead : List IDNode) :
    Option (List IDNode) :=
  if room then some (lhead ++ [⟨id, data⟩]) else none

/-- `joylink_idnode_get_by_id` -/
def joylinkIdnodeGetById (id : ℕ) (lhead : List IDNode) : Option IDNode :=
  lhead.find? fun idNode => idNode.id = id

/-- `joylink_join_pkg_get_index_by_name_id`; `none` is `E_RET_ERROR_NO_EXIST`. -/
def joylinkJoinPkgGetIndexByNameId (jps : JLJoinPackets) (name : List Byte) (id : Byte) :
    Option (Fin jlMaxJoinPkgArrary) :=
  (List.finRange jlMaxJoinPkgArrary).find? fun i =>
    (jps i).isRun && (name = (jps i).name && id = (jps i).id)

/-- `joylink_join_pkg_get_idle_index`; `none` is `E_RET_ERROR_PKG_BREAK_ARRAY`. -/
def joylinkJoinPkgGetIdleIndex (jps : JLJoinPackets) : Option (Fin jlMaxJoinPkgArrary) :=
  (List.finRange jlMaxJoinPkgArrary).find? fun i => !(jps i).isRun

/-- A packet of a message, as it is added. -/
structure Fragment where
  name : List Byte
  id : Byte
  phead : JLPacketHead
  data : List Byte
  room : Bool

/-- `joylink_join_pkg_cache_new_node` -/
def joylinkJoinPkgCacheNewNode (jps : JLJoinPackets) (c : Fragment) :
    Except JLRetCode (Fin jlMaxJoinPkgArrary) × JLJoinPackets :=
  match joylinkJoinPkgGetIdleIndex jps with
  | none => (.error .errorPkgBreakArray, jps)
  | some i =>
    match joylinkIdnodeAdd c.room c.phead.index.toNat c.data [] with
    | some lhead =>
      (.ok i, Function.update jps i { jps i with
        lhead := lhead, name := c.name, id := c.id, isRun := true, phead := c.phead,
        totalLen := c.data.length })
    | none => (.error .error, Function.update jps i { jps i with lhead := [] })

/-- The first half of `joylink_join_pkg_add_data`: the slot that the packet is added to. -/
def joinPkgAddNode (jps : JLJoinPackets) (c : Fragment) :
    Except JLRetCode (Fin jlMaxJoinPkgArrary) × JLJoinPackets :=
  match joylinkJoinPkgGetIndexByNameId jps c.name c.id with
  | some i =>
    match joylinkIdnodeAdd c.room c.phead.index.toNat c.data (jps i).lhead with
    | some lhead =>
      (.ok i, Function.update jps i { jps i with
        lhead := lhead, totalLen := (jps i).totalLen + c.data.length })
    | none => (.error .error, jps)
  | none => joylinkJoinPkgCacheNewNode jps c

/-- `joylink_join_pkg_add_data` -/
def joylinkJoinPkgAddData (jps : JLJoinPackets) (c : Fragment) : JLRetCode × JLJoinPackets :=
  let (ret, jps) := joinPkgAddNode jps c
  match ret with
  | .ok i => (if (jps i).currentCount = (jps i).phead.total.toNat then .allDataHit else .ok, jps)
  | .error e => (e, jps)

/-- The loop of `joylink_join_pkg_join_data`, over the ids that are still to be copied; the cells of
    the buffer are `none` until they are written, and `some none` is that a packet is missing. -/
def joinLoop {n : ℕ} (lhead : List IDNode) :
    List ℕ → ℕ → Block (Option Byte) n → Option (Option (Block (Option Byte) n))
  | [], _, pData => some (some pData)
  | i :: is, offset, pData =>
    match joylinkIdnodeGetById i lhead with
    | none => some none
    | some pkg => do
      let pData ← pData.write offset (pkg.data.map some)
      joinLoop lhead is (offset + pkg.data.length) pData

/-- `joylink_join_pkg_join_data`: the buffer, of the length that `out_len` is given. -/
def joylinkJoinPkgJoinData (jps : JLJoinPackets) (name : List Byte) (id : Byte) (room : Bool) :
    Option (Option (List (Option Byte))) :=
  match joylinkJoinPkgGetIndexByNameId jps name id with
  | none => some none
  | some i =>
    if room then
      (joinLoop (jps i).lhead (List.range' 1 (jps i).phead.total.toNat) 0
        (Block.fill (jps i).totalLen none)).map fun pData => pData.map Block.cells
    else some none

/-! ## The slots by sender and number -/

/-- What a slot is found by. -/
def Fragment.key (c : Fragment) : List Byte × Byte := (c.name, c.id)

/-- What a slot keeps of a packet. -/
def Fragment.node (c : Fragment) : IDNode := ⟨c.phead.index.toNat, c.data⟩

/-- The slots as a table. -/
def view (jps : JLJoinPackets) : Slots.Table (List Byte × Byte) JLJoinPacket jlMaxJoinPkgArrary :=
  fun i => if (jps i).isRun then some (((jps i).name, (jps i).id), jps i) else none

section
variable {jps jps' : JLJoinPackets} {i : Fin jlMaxJoinPkgArrary} {c : Fragment}
  {cs : List Fragment} {jp : JLJoinPacket}

theorem index_view (jps : JLJoinPackets) (name : List Byte) (id : Byte) :
    Slots.index (view jps) (name, id) = joylinkJoinPkgGetIndexByNameId jps name id := by
  refine congrArg (fun p => List.find? p _) (funext fun i => ?_)
  by_cases h : (jps i).isRun <;> simp [view, h, eq_comm]

theorem idle_view (jps : JLJoinPackets) :
    Slots.idle (view jps) = joylinkJoinPkgGetIdleIndex jps := by
  refine congrArg (fun p => List.find? p _) (funext fun i => ?_)
  by_cases h : (jps i).isRun <;> simp [view, h]

theorem view_eq_some {k : List Byte × Byte} :
    view jps i = some (k, jp) ↔ (jps i).isRun ∧ ((jps i).name, (jps i).id) = k ∧ jps i = jp := by
  rw [view]
  split_ifs with h <;> simp [h]

/-- A slot in use is replaced. -/
theorem view_update (jps : JLJoinPackets) (i : Fin jlMaxJoinPkgArrary) (h : jp.isRun) :
    view (Function.update jps i jp) =
      Function.update (view jps) i (some ((jp.name, jp.id), jp)) := by
  funext j
  rcases eq_or_ne j i with rfl | hj
  · simp [view, h]
  · simp [view, hj]

/-- A slot that is idle is not seen. -/
theorem view_update_of_idle (h : (jps i).isRun = false) (hjp : jp.isRun = false) :
    view (Function.update jps i jp) = view jps := by
  funext j
  rcases eq_or_ne j i with rfl | hj
  · simp [view, h, hjp]
  · simp [view, hj]

/-! ## What a slot has taken -/

/-- The slot that has taken these packets. -/
def collected (cs : List Fragment) : Option JLJoinPacket :=
  cs.head?.map fun c =>
    { name := c.name, currentCount := 0, totalLen := (cs.map fun c => c.data.length).sum,
      id := c.id, isRun := true, lhead := cs.map Fragment.node, phead := c.phead }

theorem collected_append (h : collected cs = some jp) (c : Fragment) :
    collected (cs ++ [c]) = some { jp with
      lhead := jp.lhead ++ [c.node], totalLen := jp.totalLen + c.data.length } := by
  obtain ⟨d, hd, rfl⟩ := Option.map_eq_some_iff.1 h
  rw [collected, List.head?_append, hd]
  simp

theorem collected_eq_none : collected cs = none ↔ cs = [] := by
  rw [collected, Option.map_eq_none_iff, List.head?_eq_none_iff]

/-- The slots have taken the packets `cs`, each key its own. -/
structure Collected (jps : JLJoinPackets) (cs : List Fragment) : Prop where
  distinct : Slots.Distinct (view jps)
  count : ∀ i, (jps i).currentCount = 0
  lookup : ∀ k, Slots.lookup (view jps) k = collected (cs.filter fun c => c.key = k)

theorem Collected.init : Collected initJoinPackets [] := by
  refine ⟨?_, fun _ => rfl, fun k => ?_⟩
  · intro i j k b d h
    exact absurd (view_eq_some.1 h).1 Bool.false_ne_true
  · rw [Slots.lookup]
    cases Slots.index (view initJoinPackets) k <;> rfl

/-- A packet is put behind those of its key, in the slot of its key or an idle one. -/
theorem Collected.store (h : Collected jps cs)
    (hjp : collected ((cs.filter fun d => d.key = c.key) ++ [c]) = some jp)
    (hrun : jp.isRun) (hkey : (jp.name, jp.id) = c.key) (hcount : jp.currentCount = 0)
    (hi : (Slots.index (view jps) c.key).or (Slots.idle (view jps)) = some i) :
    Collected (Function.update jps i jp) (cs ++ [c]) := by
  have hput : Slots.put (view jps) c.key jp = some (view (Function.update jps i jp)) := by
    rw [Slots.put, hi, view_update jps i hrun, hkey]
    rfl
  refine ⟨h.distinct.put hput, fun j => ?_, fun k => ?_⟩
  · rcases eq_or_ne j i with rfl | hj
    · rw [Function.update_self]
      exact hcount
    · rw [Function.update_of_ne hj]
      exact h.count j
  · rw [List.filter_append]
    rcases eq_or_ne k c.key with rfl | hk
    · rw [Slots.lookup_put_self h.distinct hput, List.filter_cons_of_pos (by simp),
        List.filter_nil, hjp]
    · rw [Slots.lookup_put_of_ne h.distinct hput hk, h.lookup k,
        List.filter_cons_of_neg (by simpa using hk.symm), List.filter_nil, List.append_nil]

/-- A slot that is idle may change. -/
theorem Collected.idle (h : Collected jps cs) (hi : (jps i).isRun = false) (hjp : jp.isRun = false)
    (hcount : jp.currentCount = 0) : Collected (Function.update jps i jp) cs := by
  have hview := view_update_of_idle hi hjp
  refine ⟨hview ▸ h.distinct, fun j => ?_, fun k => by rw [hview, h.lookup k]⟩
  rcases eq_or_ne j i with rfl | hj
  · rw [Function.update_self]
    exact hcount
  · rw [Function.update_of_ne hj]
    exact h.count j

/-- **What adding a packet does.**  It goes to the slot of its key, or else to an idle one; it is
    refused when there is neither, or no memory. -/
theorem joinPkgAddNode_cases (h : Collected jps cs) (c : Fragment) :
    (∃ i jps', joinPkgAddNode jps c = (.ok i, jps') ∧ Collected jps' (cs ++ [c]) ∧
        collected ((cs.filter fun d => d.key = c.key) ++ [c]) = some (jps' i) ∧
        ∀ jp, (Slots.put (view jps) c.key jp).isSome) ∨
      (joinPkgAddNode jps c = (.error .errorPkgBreakArray, jps) ∧
        ∀ jp, Slots.put (view jps) c.key jp = none) ∨
      (∃ jps', joinPkgAddNode jps c = (.error .error, jps') ∧ c.room = false ∧ Collected jps' cs ∧
        ∀ jp, (Slots.put (view jps) c.key jp).isSome) := by
  have hindex : Slots.index (view jps) c.key = _ := index_view jps c.name c.id
  have hlookup := h.lookup c.key
  rcases hi : joylinkJoinPkgGetIndexByNameId jps c.name c.id with _ | i
  · rw [hi] at hindex
    rw [Slots.lookup, hindex, Option.bind_none, eq_comm, collected_eq_none] at hlookup
    rw [hlookup, List.nil_append]
    have hidle := idle_view jps
    rcases hj : joylinkJoinPkgGetIdleIndex jps with _ | j
    · rw [hj] at hidle
      refine .inr (.inl ⟨?_, fun jp => ?_⟩)
      · rw [joinPkgAddNode, hi, joylinkJoinPkgCacheNewNode, hj]
      · rw [Slots.put, hindex, hidle]
        rfl
    · rw [hj] at hidle
      have hstop : (jps j).isRun = false := by
        have hnone := Slots.idle_eq_some hidle
        rw [view] at hnone
        split_ifs at hnone with hrun
        simpa using hrun
      cases hroom : c.room with
      | false =>
        refine .inr (.inr ⟨Function.update jps j { jps j with lhead := [] }, ?_, rfl,
          h.idle hstop hstop (h.count j), fun jp => ?_⟩)
        · rw [joinPkgAddNode, hi, joylinkJoinPkgCacheNewNode, hj, joylinkIdnodeAdd, hroom]
          rfl
        · rw [Slots.put, hindex, hidle]
          rfl
      | true =>
        have hjp : collected [c] = some { jps j with
            lhead := [c.node], name := c.name, id := c.id, isRun := true, phead := c.phead,
            totalLen := c.data.length } := by
          simp [collected, h.count j]
        have hstore := h.store ((congrArg (fun l => collected (l ++ [c])) hlookup).trans hjp) rfl rfl
          (h.count j) (by rw [hindex, hidle]; rfl)
        refine .inl ⟨j, _, ?_, hstore, ?_, fun jp => ?_⟩
        · rw [joinPkgAddNode, hi, joylinkJoinPkgCacheNewNode, hj, joylinkIdnodeAdd, hroom]
          rfl
        · rw [hjp, Function.update_self]
        · rw [Slots.put, hindex, hidle]
          rfl
  · rw [hi] at hindex
    obtain ⟨jp, hslot⟩ := Slots.index_eq_some hindex
    obtain ⟨hrun, hkey, rfl⟩ := view_eq_some.1 hslot
    rw [Slots.lookup_of_slot h.distinct hslot] at hlookup
    cases hroom : c.room with
    | false =>
      refine .inr (.inr ⟨jps, ?_, rfl, h, fun jp => ?_⟩)
      · simp only [joinPkgAddNode, hi, joylinkIdnodeAdd, hroom]
        rfl
      · rw [Slots.put, hindex]
        rfl
    | true =>
      have hjp := collected_append hlookup.symm c
      have hstore := h.store hjp hrun hkey (h.count i) (by rw [hindex]; rfl)
      refine .inl ⟨i, _, ?_, hstore, ?_, fun jp => ?_⟩
      · simp only [joinPkgAddNode, hi, joylinkIdnodeAdd, hroom]
        rfl
      · rw [hjp, Function.update_self]
      · rw [Slots.put, hindex]
        rfl

end

/-! ## Runs -/

/-- A packet is added; behind the slots stand the packets that were not refused. -/
def joinStep (s : JLJoinPackets × List Fragment) (c : Fragment) : JLJoinPackets × List Fragment :=
  let (ret, jps) := joylinkJoinPkgAddData s.1 c
  (jps, if ret = .ok ∨ ret = .allDataHit then s.2 ++ [c] else s.2)

/-- Packets are added in turn. -/
def joinRun (cs : List Fragment) : JLJoinPackets × List Fragment :=
  cs.foldl joinStep (initJoinPackets, [])

theorem joinRun_append (cs : List Fragment) (c : Fragment) :
    joinRun (cs ++ [c]) = joinStep (joinRun cs) c := List.foldl_concat _ _ _ _

section
variable {s : JLJoinPackets × List Fragment} {cs : List Fragment}

/-- What adding a packet returns. -/
theorem joylinkJoinPkgAddData_cases (h : Collected s.1 s.2) (c : Fragment) :
    (∃ jps' d, joylinkJoinPkgAddData s.1 c =
        (if 0 = d.phead.total.toNat then .allDataHit else .ok, jps') ∧
        d ∈ s.2 ++ [c] ∧ Collected jps' (s.2 ++ [c]) ∧
        ∀ jp, (Slots.put (view s.1) c.key jp).isSome) ∨
      (joylinkJoinPkgAddData s.1 c = (.errorPkgBreakArray, s.1) ∧
        ∀ jp, Slots.put (view s.1) c.key jp = none) ∨
      (∃ jps', joylinkJoinPkgAddData s.1 c = (.error, jps') ∧ c.room = false ∧ Collected jps' s.2 ∧
        ∀ jp, (Slots.put (view s.1) c.key jp).isSome) := by
  rcases joinPkgAddNode_cases h c with ⟨i, jps', hadd, hnew, hjp, hput⟩ | ⟨hadd, hput⟩ |
    ⟨jps', hadd, hroom, hold, hput⟩
  · obtain ⟨d, hd, hslot⟩ := Option.map_eq_some_iff.1 hjp
    refine .inl ⟨jps', d, ?_, ?_, hnew, hput⟩
    · rw [joylinkJoinPkgAddData, hadd]
      simp only [← hslot]
    · have hmem := List.mem_of_mem_head? hd
      rw [List.mem_append] at hmem ⊢
      exact hmem.imp_left List.mem_of_mem_filter
  · exact .inr (.inl ⟨by rw [joylinkJoinPkgAddData, hadd], hput⟩)
  · exact .inr (.inr ⟨jps', by rw [joylinkJoinPkgAddData, hadd], hroom, hold, hput⟩)

theorem joinStep_collected (h : Collected s.1 s.2) (c : Fragment) :
    Collected (joinStep s c).1 (joinStep s c).2 ∧ (joinStep s c).2 ⊆ s.2 ++ [c] := by
  rcases joylinkJoinPkgAddData_cases h c with ⟨jps', d, hadd, -, hnew, -⟩ | ⟨hadd, -⟩ |
    ⟨jps', hadd, -, hold, -⟩
  · have hstep : joinStep s c = (jps', s.2 ++ [c]) := by
      rw [joinStep, hadd]
      split_ifs <;> simp_all
    rw [hstep]
    exact ⟨hnew, List.Subset.refl _⟩
  · have hstep : joinStep s c = s := by rw [joinStep, hadd]; rfl
    rw [hstep]
    exact ⟨h, List.subset_append_left _ _⟩
  · have hstep : joinStep s c = (jps', s.2) := by rw [joinStep, hadd]; rfl
    rw [hstep]
    exact ⟨hold, List.subset_append_left _ _⟩

/-- **The slots take the packets in the order they come in**, each key its own. -/
theorem joinRun_collected (cs : List Fragment) :
    Collected (joinRun cs).1 (joinRun cs).2 ∧ (joinRun cs).2 ⊆ cs := by
  induction cs using List.reverseRecOn with
  | nil => exact ⟨Collected.init, List.Subset.refl _⟩
  | append_singleton cs c ih =>
    rw [joinRun_append]
    obtain ⟨h, hsub⟩ := joinStep_collected ih.1 c
    refine ⟨h, fun d hd => ?_⟩
    have := hsub hd
    rw [List.mem_append] at this ⊢
    exact this.imp_left (ih.2 ·)

/-- A packet of a message in two, for examples. -/
def exampleFragment (id : Byte) (index : Byte) (data : List Byte) : Fragment :=
  ⟨[], id, { newHead 0x123455BB 4 0 with total := 2, index := index }, data, true⟩

/-- **No message is ever complete.**  The packets of a message say how many there are, and the slot
    counts none of them: whatever packets come, in whatever order, `joylink_join_pkg_add_data` does not
    return `E_RET_ALL_DATA_HIT`. -/
theorem add_data_never_hit {c : Fragment} (h : ∀ d ∈ cs ++ [c], d.phead.total ≠ 0) :
    (joylinkJoinPkgAddData (joinRun cs).1 c).1 ≠ .allDataHit := by
  obtain ⟨hcollected, hsub⟩ := joinRun_collected cs
  rcases joylinkJoinPkgAddData_cases hcollected c with ⟨jps', d, hadd, hd, -⟩ | ⟨hadd, -⟩ |
    ⟨jps', hadd, -⟩
  · have hmem : d ∈ cs ++ [c] := by
      rw [List.mem_append] at hd ⊢
      exact hd.imp_left (hsub ·)
    have hzero : d.phead.total.toNat ≠ 0 := by
      simpa [BitVec.toNat_eq] using h d hmem
    simp [hadd, hzero.symm]
  · simp [hadd]
  · simp [hadd]

theorem add_data_never_hit_two : (joylinkJoinPkgAddData (joinRun [exampleFragment 5 2 [3, 4]]).1
    (exampleFragment 5 1 [1, 2])).1 ≠ .allDataHit :=
  add_data_never_hit (by decide)

/-- What has been taken stays. -/
theorem joinRun_subset (cs more : List Fragment) : (joinRun cs).2 ⊆ (joinRun (cs ++ more)).2 := by
  induction more using List.reverseRecOn with
  | nil => rw [List.append_nil]; exact List.Subset.refl _
  | append_singleton more c ih =>
    rw [← List.append_assoc, joinRun_append]
    refine fun d hd => ?_
    have hold := ih hd
    rw [joinStep]
    dsimp only
    split_ifs
    · exact List.mem_append_left _ hold
    · exact hold

theorem lookup_isSome_iff {k : List Byte × Byte} (h : Collected s.1 s.2) :
    (Slots.lookup (view s.1) k).isSome ↔ ∃ d ∈ s.2, d.key = k := by
  rw [h.lookup k, Option.isSome_iff_ne_none, ne_eq, collected_eq_none, List.filter_eq_nil_iff]
  simp

/-- With memory, and for no more than twenty senders and numbers, no packet is refused. -/
theorem joinRun_snd {K : Finset (List Byte × Byte)} (hK : K.card ≤ jlMaxJoinPkgArrary)
    (hkeys : ∀ c ∈ cs, c.key ∈ K) (hroom : ∀ c ∈ cs, c.room) : (joinRun cs).2 = cs := by
  induction cs using List.reverseRecOn with
  | nil => rfl
  | append_singleton cs c ih =>
    have hcs := ih (fun d hd => hkeys d (List.mem_append_left _ hd))
      fun d hd => hroom d (List.mem_append_left _ hd)
    obtain ⟨h, -⟩ := joinRun_collected cs
    have hput := Slots.put_isSome h.distinct hK (fun k hk => by
      obtain ⟨d, hd, rfl⟩ := (lookup_isSome_iff h).1 hk
      exact hkeys d (List.mem_append_left _ (hcs ▸ hd))) (hkeys c (by simp))
      (initJoinPackets 0)
    rw [joinRun_append, joinStep]
    rcases joylinkJoinPkgAddData_cases h c with ⟨jps', d, hadd, -⟩ | ⟨-, hnone⟩ | ⟨_, -, hno, -⟩
    · rw [hadd, hcs]
      dsimp only
      rw [if_pos]
      split_ifs
      · exact .inr rfl
      · exact .inl rfl
    · rw [hnone] at hput
      cases hput
    · rw [hroom c (by simp)] at hno
      cases hno

/-- **A slot is never given back.**  After packets of twenty senders and numbers have been taken, a
    packet of any other is refused for all time. -/
theorem add_data_full {K : Finset (List Byte × Byte)} (hK : jlMaxJoinPkgArrary ≤ K.card)
    (hused : ∀ k ∈ K, ∃ d ∈ (joinRun cs).2, d.key = k) (more : List Fragment) {c : Fragment}
    (hc : c.key ∉ K) :
    joylinkJoinPkgAddData (joinRun (cs ++ more)).1 c =
      (.errorPkgBreakArray, (joinRun (cs ++ more)).1) := by
  obtain ⟨h, -⟩ := joinRun_collected (cs ++ more)
  have hnone : ∀ jp, Slots.put (view (joinRun (cs ++ more)).1) c.key jp = none := by
    refine Slots.put_eq_none h.distinct hK (fun k hk => ?_) hc
    obtain ⟨d, hd, hkey⟩ := hused k hk
    exact (lookup_isSome_iff h).2 ⟨d, joinRun_subset cs more hd, hkey⟩
  rcases joylinkJoinPkgAddData_cases h c with ⟨_, _, -, -, -, hput⟩ | ⟨hadd, -⟩ | ⟨_, -, -, -, hput⟩
  · exact absurd (hput (initJoinPackets 0)) (by simp [hnone])
  · exact hadd
  · exact absurd (hput (initJoinPackets 0)) (by simp [hnone])

/-- Twenty numbers of one sender, and one more, twice. -/
theorem add_data_full_twenty : joylinkJoinPkgAddData (joinRun
    (((List.range 20).map fun i => exampleFragment (BitVec.ofNat 8 i) 1 [i]) ++
      [exampleFragment 20 1 []])).1 (exampleFragment 20 1 []) = (.errorPkgBreakArray, (joinRun
    (((List.range 20).map fun i => exampleFragment (BitVec.ofNat 8 i) 1 [i]) ++
      [exampleFragment 20 1 []])).1) := by
  have hcard : ((Finset.range 20).image fun i => (([] : List Byte), BitVec.ofNat 8 i)).card = 20 := by
    decide +kernel
  have hrun : (joinRun ((List.range 20).map fun i =>
      exampleFragment (BitVec.ofNat 8 i) 1 [i])).2 = _ :=
    joinRun_snd hcard.le (by decide +kernel) (by decide +kernel)
  refine add_data_full hcard.ge ?_ _ (by decide +kernel)
  rw [hrun]
  decide +kernel

/-! ## Joining -/

/-- The data of the first packet with this index. -/
def firstData (cs : List Fragment) (i : ℕ) : Option (List Byte) :=
  (cs.find? fun c => c.phead.index.toNat = i).map Fragment.data

theorem getById_map_node (cs : List Fragment) (i : ℕ) :
    (joylinkIdnodeGetById i (cs.map Fragment.node)).map IDNode.data = firstData cs i := by
  rw [joylinkIdnodeGetById, List.find?_map, Option.map_map]
  rfl

/-- The first packets of different indices are no longer than all packets. -/
theorem sum_firstData_le {is : List ℕ} (h : is.Nodup) (cs : List Fragment) :
    (is.map fun i => ((firstData cs i).getD []).length).sum ≤
      (cs.map fun c => c.data.length).sum := by
  induction cs with
  | nil => simp [firstData]
  | cons c cs ih =>
    have hone : ∀ i, ((firstData (c :: cs) i).getD []).length ≤
        (if c.phead.index.toNat = i then c.data.length else 0) +
          ((firstData cs i).getD []).length := by
      intro i
      rw [firstData, List.find?_cons]
      split_ifs with hi
      · simp [hi]
      · simp [hi, firstData]
    refine (List.sum_le_sum fun i _ => hone i).trans ?_
    rw [List.sum_map_add, List.map_cons, List.sum_cons]
    refine Nat.add_le_add ?_ ih
    rw [← List.sum_toFinset _ h, Finset.sum_ite_eq]
    split_ifs <;> simp

/-- **The loop** copies the first packets of the indices one behind the other, if there is room for
    them, and stops at one that is missing. -/
theorem joinLoop_eq {n : ℕ} (cs : List Fragment) : ∀ (is : List ℕ) (offset : ℕ)
    (pData : Block (Option Byte) n),
    offset + (is.map fun i => ((firstData cs i).getD []).length).sum ≤ n →
    joinLoop (cs.map Fragment.node) is offset pData =
      (is.mapM (firstData cs)).elim (some none) fun parts =>
        (pData.write offset (parts.flatten.map some)).map some := by
  intro is
  induction is with
  | nil =>
    intro offset pData h
    rw [joinLoop, List.mapM_nil]
    simp only [Option.pure_def, Option.elim_some, List.flatten_nil, List.map_nil]
    rw [Block.write_of_le _ (by simpa using h), Block.put_nil]
    rfl
  | cons i is ih =>
    intro offset pData h
    rw [List.map_cons, List.sum_cons] at h
    have hfirst := getById_map_node cs i
    rw [joinLoop, List.mapM_cons]
    rcases hget : joylinkIdnodeGetById i (cs.map Fragment.node) with _ | pkg
    · rw [hget] at hfirst
      rw [← hfirst]
      rfl
    · rw [hget, Option.map_some] at hfirst
      rw [← hfirst, Option.getD_some] at h
      have hfit : offset + (pkg.data.map some).length ≤ n := by
        rw [List.length_map]
        omega
      simp only [← hfirst, Option.bind_eq_bind, Option.bind_some, Option.pure_def]
      rw [Block.write_of_le _ hfit, Option.bind_some, ih _ _ (by omega)]
      rcases hparts : is.mapM (firstData cs) with _ | parts
      · rfl
      · rw [Option.bind_some, Option.elim_some, Option.elim_some, List.flatten_cons, List.map_append,
          ← Block.write_bind_write _ _ _ rfl, Block.write_of_le _ hfit, Option.bind_some,
          List.length_map]

theorem length_flatten_of_mapM {α : Type} {f : ℕ → Option (List α)} {is : List ℕ} :
    ∀ {parts}, is.mapM f = some parts →
      parts.flatten.length = (is.map fun i => ((f i).getD []).length).sum := by
  induction is with
  | nil =>
    intro parts h
    rw [List.mapM_nil] at h
    cases h
    rfl
  | cons i is ih =>
    intro parts h
    rw [List.mapM_cons] at h
    obtain ⟨x, hx, h⟩ := Option.bind_eq_some_iff.1 h
    obtain ⟨xs, hxs, h⟩ := Option.bind_eq_some_iff.1 h
    cases h
    rw [List.flatten_cons, List.length_append, ih hxs, List.map_cons, List.sum_cons, hx]
    rfl

/-- What `joylink_join_pkg_join_data` makes of the packets of a slot. -/
theorem joinData_of_lookup {jps : JLJoinPackets} {cs : List Fragment} (h : Collected jps cs)
    (name : List Byte) (id : Byte) :
    joylinkJoinPkgJoinData jps name id true =
      some ((cs.filter fun c => c.key = (name, id)).head?.bind fun c =>
        ((List.range' 1 c.phead.total.toNat).mapM
          (firstData (cs.filter fun c => c.key = (name, id)))).map fun parts =>
            parts.flatten.map some ++ List.replicate
              (((cs.filter fun c => c.key = (name, id)).map fun c => c.data.length).sum -
                parts.flatten.length) none) := by
  have hlookup := h.lookup (name, id)
  have hindex := index_view jps name id
  set own := cs.filter fun c => c.key = (name, id)
  rcases hi : joylinkJoinPkgGetIndexByNameId jps name id with _ | i
  · rw [hi] at hindex
    rw [Slots.lookup, hindex, Option.bind_none, eq_comm, collected_eq_none] at hlookup
    rw [joylinkJoinPkgJoinData, hi, hlookup]
    rfl
  · rw [hi] at hindex
    obtain ⟨jp, hslot⟩ := Slots.index_eq_some hindex
    obtain ⟨-, -, rfl⟩ := view_eq_some.1 hslot
    rw [Slots.lookup_of_slot h.distinct hslot] at hlookup
    obtain ⟨c, hc, hjp⟩ := Option.map_eq_some_iff.1 hlookup.symm
    have hsum := sum_firstData_le (List.nodup_range' (s := 1) (n := c.phead.total.toNat)) own
    rw [joylinkJoinPkgJoinData, hi]
    dsimp only
    rw [if_pos rfl, ← hjp]
    dsimp only
    rw [joinLoop_eq own _ _ _ (by omega), hc, Option.bind_some]
    rcases hparts : (List.range' 1 c.phead.total.toNat).mapM (firstData own) with _ | parts
    · rfl
    · rw [← length_flatten_of_mapM hparts] at hsum
      have hfit : 0 + (parts.flatten.map some).length ≤ (own.map fun c => c.data.length).sum := by
        rw [List.length_map]
        omega
      rw [Option.elim_some, Block.write_of_le _ hfit]
      simp only [Option.map_some]
      rw [Block.cells_put_zero, List.length_map]
      simp [Block.fill]

/-- Joining stays within the buffer, after whatever packets. -/
theorem join_data_isSome (cs : List Fragment) (name : List Byte) (id : Byte) (room : Bool) :
    (joylinkJoinPkgJoinData (joinRun cs).1 name id room).isSome := by
  cases room with
  | false =>
    rw [joylinkJoinPkgJoinData]
    cases joylinkJoinPkgGetIndexByNameId (joinRun cs).1 name id <;> rfl
  | true =>
    rw [joinData_of_lookup (joinRun_collected cs).1]
    rfl

/-- The indices of a message find its parts. -/
theorem mapM_range' {α : Type} {f : ℕ → Option α} {xs : List α} : ∀ {k : ℕ},
    (∀ j < xs.length, f (k + j) = xs[j]?) → (List.range' k xs.length).mapM f = some xs := by
  induction xs with
  | nil => intro k _; rfl
  | cons x xs ih =>
    intro k h
    have hx := h 0 (by simp)
    have hxs := ih (k := k + 1) fun j hj => by
      have := h (j + 1) (by simpa using hj)
      rwa [List.getElem?_cons_succ, ← Nat.add_assoc, Nat.add_right_comm] at this
    rw [List.length_cons, List.range'_succ, List.mapM_cons, show f k = some x from hx, hxs]
    rfl

/-- **A message is joined in order.**  Whatever order the packets of a message came in, however often
    each of them, and whatever came between them: what is joined begins with the message, and is
    followed by as many bytes as came twice, which nothing has written. -/
theorem join_data_of_run {parts : List (List Byte)} {name : List Byte} {id : Byte}
    {K : Finset (List Byte × Byte)} (hK : K.card ≤ jlMaxJoinPkgArrary)
    (hkeys : ∀ c ∈ cs, c.key ∈ K) (hroom : ∀ c ∈ cs, c.room) (hne : parts ≠ [])
    (hcopy : ∀ c ∈ cs, c.key = (name, id) → c.phead.total.toNat = parts.length ∧
      1 ≤ c.phead.index.toNat ∧ parts[c.phead.index.toNat - 1]? = some c.data)
    (hall : ∀ i < parts.length, ∃ c ∈ cs, c.key = (name, id) ∧ c.phead.index.toNat = i + 1) :
    joylinkJoinPkgJoinData (joinRun cs).1 name id true =
      some (some (parts.flatten.map some ++ List.replicate
        (((cs.filter fun c => c.key = (name, id)).map fun c => c.data.length).sum -
          parts.flatten.length) none)) := by
  obtain ⟨h, -⟩ := joinRun_collected cs
  rw [joinRun_snd hK hkeys hroom] at h
  rw [joinData_of_lookup h]
  set own := cs.filter fun c => c.key = (name, id) with hown
  have hmem : ∀ c ∈ own, c ∈ cs ∧ c.key = (name, id) := by simp [hown]
  have hfirst : ∀ j < parts.length, firstData own (1 + j) = parts[j]? := by
    intro j hj
    obtain ⟨c, hc, hkey, hindex⟩ := hall j hj
    have hsome : (own.find? fun c => c.phead.index.toNat = 1 + j).isSome := by
      rw [List.find?_isSome]
      exact ⟨c, by simp [hown, hc, hkey], by simp [hindex, Nat.add_comm]⟩
    obtain ⟨d, hd⟩ := Option.isSome_iff_exists.1 hsome
    obtain ⟨hdcs, hdkey⟩ := hmem d (List.mem_of_find?_eq_some hd)
    have hdindex : d.phead.index.toNat = 1 + j := by simpa using List.find?_some hd
    have hdata := (hcopy d hdcs hdkey).2.2
    rw [hdindex, Nat.add_sub_cancel_left] at hdata
    rw [firstData, hd, hdata]
    rfl
  obtain ⟨c, hc, hkey, -⟩ := hall 0 (List.length_pos_iff.2 hne)
  have hpos : own ≠ [] := List.ne_nil_of_mem (show c ∈ own by simp [hown, hc, hkey])
  obtain ⟨d, hd⟩ := Option.isSome_iff_exists.1 (List.isSome_head?.2 hpos)
  obtain ⟨hdcs, hdkey⟩ := hmem d (List.mem_of_mem_head? hd)
  rw [hd, Option.bind_some, (hcopy d hdcs hdkey).1, mapM_range' hfirst]
  rfl

/-- The second packet comes first, and comes twice. -/
theorem join_data_of_run_two : joylinkJoinPkgJoinData (joinRun [exampleFragment 5 2 [3],
    exampleFragment 6 1 [9], exampleFragment 5 2 [3], exampleFragment 5 1 [1, 2]]).1 [] 5 true =
      some (some [some 1, some 2, some 3, none]) :=
  join_data_of_run (K := {([], 5), ([], 6)}) (by decide) (by decide) (by decide)
    (show [[1, 2], [3]] ≠ [] by decide) (by decide) (by decide)

end

end MxchipSpp
