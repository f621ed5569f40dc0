/-
  The numbers of what the module sends of its own accord.

  Reports count in `g_userconfig.sn` and heartbeats in `g_userconfig.loc_sn`.
  A heartbeat counts up first and writes its number big-endian; a report writes
  the number before it counts, in the order of the device, and counts also when
  there is nobody to report to.
-/
import MxchipSpp.Binding
import MxchipSpp.FrameData

namespace MxchipSpp

open Memory Endian Outcome

variable {P : Platform}

/-! ## Messages and numbers -/

/-- The field `sn` of a message, read big-endian. -/
def snNumber (m : List Byte) : BitVec 32 := m.getD 12 0 ++ m.getD 13 0 ++ m.getD 14 0 ++ m.getD 15 0

/-- What the module has sent of its own accord. -/
def World.own (w : World P) : List (List Byte) :=
  (w.sent.map Sent.message).filter fun m => decide (command m ∈ unsolicited)

/-- Their numbers. -/
def World.numbers (w : World P) : List (BitVec 32) := w.own.map snNumber

/-- The step calls `tcl_data_upload`. -/
def World.Attempts (w : World P) : Event → Prop
  | .dev ev => ev.delivers = true ∧ w.dev.dataup.state = 2
  | _ => False

/-- A step after which every number is that of the message before and 1, and in which none was used
    up if nothing was sent. -/
def Disciplined (w : World P) (ev : Event) : Prop :=
  ∀ w', w.step ev = some w' → w'.numbers.IsChain (fun a b => b = a + 1) ∧
    (w'.own = w.own →
      w'.userconfig.sn = w.userconfig.sn ∧ w'.userconfig.loc_sn = w.userconfig.loc_sn)

/-- A report is the next in order: nothing was sent before; or `last` is a heartbeat, and the
    counters meet; or `last` is a report, and the counter has come round. -/
def ReportFollows (c : UserConfig) : Option (List Byte) → Prop
  | none => True
  | some last => if command last = linkQuestion then htonl c.sn = c.loc_sn + 1 else c.sn = 0

/-- A heartbeat is the next in order: nothing was sent before; or `last` is a heartbeat; or it is a
    report, and the counters meet. -/
def QuestionFollows (c : UserConfig) : Option (List Byte) → Prop
  | none => True
  | some last => command last = linkQuestion ∨ htonl (c.sn - 1) = c.loc_sn

/-- What is sent in a step is the next in order, and the module is bound if it is a report. -/
def InOrder (w : World P) : Event → Prop
  | .dev ev => w.Attempts (.dev ev) →
      w.userconfig.flag = true ∧ ReportFollows w.userconfig w.own.getLast?
  | .dataUploadTimer => w.userconfig.flag = true → QuestionFollows w.userconfig w.own.getLast?
  | _ => True

section
variable {w w' : World P} {ev : Event}

theorem IsMessage.snNumber {h : IotHead} {k : ℕ} {m : List Byte} (hm : IsMessage h k m) :
    snNumber m = htonl h.sn := by
  obtain ⟨body, -, rfl⟩ := hm
  rfl

theorem own_sendto (m bytes : List Byte) (addr : SockAddr) (h : command m ∈ unsolicited) :
    (w.sendto m bytes addr).own = w.own ++ [m] := by
  simp [World.own, World.sendto, h]

/-- Answers are not the module's own messages. -/
theorem own_of_sends {U : Prop} {Q : Sent → Prop} (h : Sends U Q w w')
    (hq : ∀ s, Q s → command s.message ∉ unsolicited) : w'.own = w.own := by
  obtain ⟨news, hnews, hs⟩ := h.sent
  have hnone : (news.map Sent.message).filter (fun m => decide (command m ∈ unsolicited)) = [] := by
    refine List.filter_eq_nil_iff.2 fun m hm => ?_
    obtain ⟨s, hmem, rfl⟩ := List.mem_map.1 hm
    simpa using hq s (hs s hmem).2
  rw [World.own, World.own, hnews, List.map_append, List.filter_append, hnone, List.append_nil]

/-! ## One step -/

/-- What a step does to the counters, and what it sends. -/
inductive NumberStep (w w' : World P) (ev : Event) : Prop where
  | quiet (ha : ¬ w.Attempts ev) (hq : ev = .dataUploadTimer → w.userconfig.flag = false)
      (hown : w'.own = w.own) (hsn : w'.userconfig.sn = w.userconfig.sn)
      (hloc : w'.userconfig.loc_sn = w.userconfig.loc_sn)
  | unbound (ha : w.Attempts ev) (hf : w.userconfig.flag = false) (hown : w'.own = w.own)
      (hsn : w'.userconfig.sn = w.userconfig.sn + 1)
  | report (m : List Byte) (ha : w.Attempts ev) (hf : w.userconfig.flag = true)
      (hown : w'.own = w.own ++ [m]) (hm : command m ≠ linkQuestion)
      (hnum : snNumber m = htonl w.userconfig.sn) (hsn : w'.userconfig.sn = w.userconfig.sn + 1)
  | question (m : List Byte) (he : ev = .dataUploadTimer) (hf : w.userconfig.flag = true)
      (hown : w'.own = w.own ++ [m]) (hm : command m = linkQuestion)
      (hnum : snNumber m = w.userconfig.loc_sn + 1)
      (hloc : w'.userconfig.loc_sn = w.userconfig.loc_sn + 1)

theorem numberStep_dev {e : DevEvent} (h : devStep w e = some w') : NumberStep w w' (.dev e) := by
  rcases devStep_cases h with ⟨ha, dev, rfl⟩ | ⟨ha, hf, dev, last, rfl⟩ | ⟨ha, hf, dev, last, w₁, h₁, rfl⟩
  · exact .quiet ha (fun h => by cases h) rfl rfl rfl
  · exact .unbound ha hf rfl rfl
  · obtain ⟨-, -, m, hm, rfl⟩ := uploadSend_eq h₁
    have hcmd : command m = alamData ∨ command m = reportData := by
      rw [hm.command]
      rcases cmd_uploadHead { w with mySendBufLast := last } with hc | hc <;> rw [hc, htons, htons,
        swap16_swap16]
      · exact .inl rfl
      · exact .inr rfl
    refine .report m ha hf (own_sendto m _ _ ?_) ?_ hm.snNumber rfl
    · rcases hcmd with hc | hc <;> rw [hc] <;> decide
    · rcases hcmd with hc | hc <;> rw [hc] <;> decide

/-- A datagram changes neither counter. -/
theorem counters_iotSwitch {malloc : Bool} {len : ℕ} {buf : Buf} {addr : SockAddr}
    (h : iotSwitch malloc w buf len addr = some w') :
    w'.userconfig.sn = w.userconfig.sn ∧ w'.userconfig.loc_sn = w.userconfig.loc_sn := by
  by_cases hb : buf.head.cmd = linkOrderBunding
  · rw [iotSwitch_bunding hb] at h
    rcases tclManageRegistered_cases w buf addr with ⟨-, -, hreg⟩ | ⟨-, hreg⟩
    · rw [hreg, Option.bind_eq_bind, Option.bind_some, if_pos rfl] at h
      rw [userconfig_of_spec (tclManageRegisteredAck_spec _ buf addr) h]
      exact ⟨rfl, rfl⟩
    · rw [hreg] at h
      cases h
      exact ⟨rfl, rfl⟩
  by_cases hd : buf.head.cmd = manageDelete
  · rw [iotSwitch_delete hd] at h
    obtain ⟨eq, -, h⟩ := Option.bind_eq_some_iff.1 h
    cases eq with
    | true =>
      obtain ⟨w₁, h₁, h⟩ := Option.bind_eq_some_iff.1 h
      cases h
      rw [clearGateinfo, userconfig_of_spec (tclManageDeleteAck_spec w buf addr) h₁]
      exact ⟨rfl, rfl⟩
    | false => cases h; exact ⟨rfl, rfl⟩
  rw [userconfig_iotSwitch hb hd h]
  exact ⟨rfl, rfl⟩

theorem numberStep_udp {addr : SockAddr} {datagram : List Byte} {malloc : Bool}
    (h : w.step (.udp addr datagram malloc) = some w') :
    NumberStep w w' (.udp addr datagram malloc) := by
  have hcall : udpReceive malloc { w with cause := .udp addr datagram malloc } datagram addr =
    some w' := h
  have hsends := sends_udpReceive hcall
  have hown := own_of_sends hsends fun s ⟨_, _, _, _, hs⟩ => hs
  have hcount : w'.userconfig.sn = w.userconfig.sn ∧
      w'.userconfig.loc_sn = w.userconfig.loc_sn := by
    cases hp : (Event.udp addr datagram malloc).packet with
    | none => rw [step_no_packet hp h]; exact ⟨rfl, rfl⟩
    | some r =>
      obtain ⟨malloc', len, hs⟩ := step_packet (w := w) hp
      rw [hs] at h
      have hc := counters_iotSwitch h
      exact hc
  exact .quiet id (fun he => by cases he) hown hcount.1 hcount.2

theorem numberStep (h : w.step ev = some w') : NumberStep w w' ev := by
  cases ev with
  | dev e =>
    rcases numberStep_dev h with ⟨ha, -, hown, hsn, hloc⟩ | ⟨ha, hf, hown, hsn⟩ |
      ⟨m, ha, hf, hown, hm, hnum, hsn⟩ | ⟨m, he⟩
    · exact .quiet ha (fun he => by cases he) hown hsn hloc
    · exact .unbound ha hf hown hsn
    · exact .report m ha hf hown hm hnum hsn
    · cases he
  | udp addr datagram malloc => exact numberStep_udp h
  | selectTimeout =>
    have hcall : selectTimeout { w with cause := .selectTimeout } = some w' := h
    have hsends := sends_selectTimeout hcall
    have hown := own_of_sends hsends fun s hs => by
      rw [hs.message.command]
      decide
    have hc := userconfig_selectTimeout hcall
    exact .quiet id (fun he => by cases he) hown (by rw [hc]) (by rw [hc])
  | dataUploadTimer =>
    have h : dataUploadTimer { w with cause := .dataUploadTimer } = some w' := h
    rcases dataUploadTimer_cases h with ⟨hf, m, hm, rfl⟩ | ⟨hf, rfl⟩
    · have hcmd : command m = linkQuestion := hm.command.trans (swap16_swap16 _)
      exact .question m rfl hf (own_sendto m _ _ (by rw [hcmd]; decide)) hcmd
        (hm.snNumber.trans (swap32_swap32 _)) rfl
    · exact .quiet id (fun _ => hf) rfl rfl rfl
  | checkDevice => cases h; exact .quiet id (fun he => by cases he) rfl rfl rfl

/-! ## Runs -/

/-- What the counters say about the message sent last. -/
def LastCounted (c : UserConfig) : Option (List Byte) → Prop
  | none => True
  | some last => snNumber last = if command last = linkQuestion then c.loc_sn else htonl (c.sn - 1)

/-- The numbers so far are in order, and the counters are where the last message left them. -/
structure Numbered (w : World P) : Prop where
  chain : w.numbers.IsChain (fun a b => b = a + 1)
  counted : LastCounted w.userconfig w.own.getLast?

theorem numbered_init (deviceid : DeviceId) : Numbered (World.init P deviceid) := ⟨.nil, trivial⟩

/-- One more message: it is in order exactly if its number follows that of the last. -/
theorem chain_append {own : List (List Byte)} {m : List Byte}
    (h : (own.map snNumber).IsChain (fun a b => b = a + 1)) :
    ((own ++ [m]).map snNumber).IsChain (fun a b => b = a + 1) ↔
      ∀ last, own.getLast? = some last → snNumber m = snNumber last + 1 := by
  rw [List.map_append, List.map_singleton, List.isChain_append, List.getLast?_map]
  simp only [h, List.isChain_singleton, true_and, List.head?_cons, Option.mem_def, Option.some_inj,
    forall_eq', Option.map_eq_some_iff]
  exact ⟨fun hall last hl => hall _ ⟨last, hl, rfl⟩, fun hall x ⟨last, hl, hx⟩ => hx ▸ hall last hl⟩

/-- A report follows exactly if its number does. -/
theorem LastCounted.report_iff {c : UserConfig} {last : Option (List Byte)} (h : LastCounted c last) :
    ReportFollows c last ↔ ∀ m, last = some m → htonl c.sn = snNumber m + 1 := by
  cases last with
  | none => exact iff_of_true trivial fun m hm => by cases hm
  | some m =>
    have h : snNumber m = if command m = linkQuestion then c.loc_sn else htonl (c.sn - 1) := h
    simp only [ReportFollows, Option.some_inj, forall_eq']
    split_ifs at h ⊢ with hq
    · rw [h]
    · have hwrap := swap32_add_one_iff (c.sn - 1)
      rw [BitVec.sub_add_cancel] at hwrap
      rw [h, ← hwrap]

/-- A heartbeat follows exactly if its number does. -/
theorem LastCounted.question_iff {c : UserConfig} {last : Option (List Byte)} (h : LastCounted c last) :
    QuestionFollows c last ↔ ∀ m, last = some m → c.loc_sn + 1 = snNumber m + 1 := by
  cases last with
  | none => exact iff_of_true trivial fun m hm => by cases hm
  | some m =>
    have h : snNumber m = if command m = linkQuestion then c.loc_sn else htonl (c.sn - 1) := h
    simp only [QuestionFollows, Option.some_inj, forall_eq']
    split_ifs at h with hq
    · rw [h]
      exact iff_of_true (.inl hq) rfl
    · rw [h, or_iff_right hq, BitVec.add_left_inj]
      exact eq_comm

/-- A step with nothing of its own sent keeps the numbers. -/
theorem Numbered.disciplined_quiet (hw : Numbered w) (hown : w'.own = w.own) :
    w'.numbers.IsChain (fun a b => b = a + 1) := by
  rw [World.numbers, hown]
  exact hw.chain

theorem Numbered.step (hw : Numbered w) (h : w.step ev = some w') (hi : InOrder w ev) :
    Numbered w' := by
  rcases numberStep h with ⟨-, -, hown, hsn, hloc⟩ | ⟨ha, hf, -, -⟩ |
    ⟨m, ha, hf, hown, hm, hnum, hsn⟩ | ⟨m, rfl, hf, hown, hm, hnum, hloc⟩
  · refine ⟨hw.disciplined_quiet hown, ?_⟩
    rw [hown]
    have hc := hw.counted
    revert hc
    cases w.own.getLast? with
    | none => exact id
    | some last => rw [LastCounted, LastCounted, hsn, hloc]; exact id
  · cases ev with
    | dev e => exact absurd (hf.symm.trans (hi ha).1) Bool.false_ne_true
    | udp | selectTimeout | dataUploadTimer | checkDevice => exact ha.elim
  · cases ev with
    | dev e =>
      have hfollows := hw.counted.report_iff.1 (hi ha).2
      refine ⟨?_, ?_⟩
      · rw [World.numbers, hown, chain_append hw.chain, hnum]
        exact hfollows
      · rw [hown, List.getLast?_concat, LastCounted, if_neg hm, hnum, hsn, BitVec.add_sub_cancel]
    | udp | selectTimeout | dataUploadTimer | checkDevice => exact ha.elim
  · have hfollows := hw.counted.question_iff.1 (hi hf)
    refine ⟨?_, ?_⟩
    · rw [World.numbers, hown, chain_append hw.chain, hnum]
      exact hfollows
    · rw [hown, List.getLast?_concat, LastCounted, if_pos hm, hnum, hloc]

/-- One step: its message is numbered as it should be exactly if it is in order. -/
theorem Numbered.disciplined_iff (hw : Numbered w) :
    Disciplined w ev ↔ ((w.step ev).isSome → InOrder w ev) := by
  constructor
  · intro hd hs
    obtain ⟨w', h⟩ := Option.isSome_iff_exists.1 hs
    obtain ⟨hchain, hkept⟩ := hd w' h
    rcases numberStep h with ⟨ha, hq, -, -, -⟩ | ⟨ha, hf, hown, hsn⟩ |
      ⟨m, ha, hf, hown, hm, hnum, hsn⟩ | ⟨m, rfl, hf, hown, hm, hnum, hloc⟩
    · cases ev with
      | dev e => exact fun h => absurd h ha
      | dataUploadTimer => exact fun hf => absurd (hf.symm.trans (hq rfl)) Bool.noConfusion
      | udp | selectTimeout | checkDevice => exact trivial
    · have hsame := (hkept hown).1
      rw [hsn, BitVec.add_right_eq_self] at hsame
      exact absurd hsame (by decide)
    · rw [World.numbers, hown, chain_append hw.chain, hnum] at hchain
      cases ev with
      | dev e => exact fun _ => ⟨hf, hw.counted.report_iff.2 hchain⟩
      | udp | selectTimeout | dataUploadTimer | checkDevice => exact ha.elim
    · rw [World.numbers, hown, chain_append hw.chain, hnum] at hchain
      exact fun _ => hw.counted.question_iff.2 hchain
  · intro hi w' h
    have hi := hi (by rw [h]; rfl)
    refine ⟨(hw.step h hi).chain, fun hsame => ?_⟩
    rcases numberStep h with ⟨-, -, -, hsn, hloc⟩ | ⟨ha, hf, -, -⟩ | ⟨m, -, -, hown, -⟩ |
      ⟨m, -, -, hown, -⟩
    · exact ⟨hsn, hloc⟩
    · cases ev with
      | dev e => exact absurd (hf.symm.trans (hi ha).1) Bool.false_ne_true
      | udp | selectTimeout | dataUploadTimer | checkDevice => exact ha.elim
    · rw [hsame] at hown
      simp at hown
    · rw [hsame] at hown
      simp at hown

/-- **Numbers of unsolicited messages.**  They go up by 1 from each message to the next, and are
    not used up without a message, exactly in the runs in which every message is in order. -/
theorem numbers_in_order_iff {deviceid : DeviceId} {evs : List Event} :
    Along World.step Disciplined (World.init P deviceid) evs ↔
      Along World.step (fun w ev => (w.step ev).isSome → InOrder w ev) (World.init P deviceid) evs :=
  Along.iff (fun _ _ hw => hw.disciplined_iff)
    (fun _ _ _ hw hi hs => hw.step hs (hi (by rw [hs]; rfl))) (numbered_init deviceid)

/-- A frame of the device, up to the record that `DataupHandle` is to pass on. -/
def statusReceived : List Event :=
  [.dev (.rev sampleFrame), .dev .revTimerUp, .dev .revTimerHandle, .dev .revCmdHandle]

/-- A heartbeat with the number 1 before a report with the number 0; and a report that is not sent,
    as the module is not bound, and takes a number. -/
theorem report_out_of_order :
    (∃ w, (World.init .sample sampleId).run
        (bindRequest :: statusReceived ++ [.dataUploadTimer, .dev .dataupHandle]) = some w ∧
      ¬ w.numbers.IsChain (fun a b => b = a + 1)) ∧
    ∃ w w', (World.init .sample sampleId).run statusReceived = some w ∧
      w.step (.dev .dataupHandle) = some w' ∧ w'.own = w.own ∧
      w'.userconfig.sn ≠ w.userconfig.sn := by
  constructor
  · have hrun : ((World.init .sample sampleId).run
        (bindRequest :: statusReceived ++ [.dataUploadTimer, .dev .dataupHandle])).map
        (fun w => w.numbers) = some [1, 0] := by decide +kernel
    obtain ⟨w, hw, hn⟩ := Option.map_eq_some_iff.1 hrun
    exact ⟨w, hw, by rw [hn]; decide⟩
  · have hrun : ((World.init .sample sampleId).run statusReceived).bind (fun w =>
        (w.step (.dev .dataupHandle)).map fun w' =>
          (w.own, w'.own, w.userconfig.sn, w'.userconfig.sn)) = some ([], [], 0, 1) := by
      decide +kernel
    obtain ⟨w, hw, hrun⟩ := Option.bind_eq_some_iff.1 hrun
    obtain ⟨w', hw', hr⟩ := Option.map_eq_some_iff.1 hrun
    simp only [Prod.mk.injEq] at hr
    obtain ⟨ho, ho', hs, hs'⟩ := hr
    exact ⟨w, w', hw, hw', by rw [ho, ho'], by rw [hs, hs']; decide⟩

end

end MxchipSpp
