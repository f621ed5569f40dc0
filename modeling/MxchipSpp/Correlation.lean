/-
  Requests and their answers.

  The handlers answer a request in place, so its `sn` comes back as
  `head_log_printf` left it: the first two bytes exchanged, the other two 0.
-/
import MxchipSpp.Framing

namespace MxchipSpp

open Memory Endian

/-! ## The fields of a message -/

/-- The bytes of `dnetid`. -/
def dnetidField (m : List Byte) : List Byte := (m.drop 4).take 4

/-- The bytes of `snetid`. -/
def snetidField (m : List Byte) : List Byte := (m.drop 8).take 4

/-- The bytes of `sn`. -/
def snField (m : List Byte) : List Byte := (m.drop 12).take 4

/-- An answer has the number of the request, and its netids in exchange. -/
structure Correlates (request answer : List Byte) : Prop where
  sn : snField answer = snField request
  dnetid : dnetidField answer = snetidField request
  snetid : snetidField answer = dnetidField request

/-- A number that comes back as it was: its first two bytes are equal and the others 0. -/
def SnKept (request : List Byte) : Prop :=
  request.getD 12 0 = request.getD 13 0 ∧ request.getD 14 0 = 0 ∧ request.getD 15 0 = 0

theorem snField_eq {m : List Byte} (h : 20 ≤ m.length) :
    snField m = [m.getD 12 0, m.getD 13 0, m.getD 14 0, m.getD 15 0] := by
  rw [snField, ← le32_get32_eq_take (by omega), le32_get32]

/-! ## Answers in place -/

/-- What `head_log_printf` makes of the number of a request. -/
theorem le32_sn_headLogPrintf (h : IotHead) :
    le32 (headLogPrintf h).sn = ((le32 h.sn).take 2).reverse ++ [0, 0] := by
  rw [← le16_setWidth, ← le16_swap16, ← le32_setWidth]
  rfl

section
variable {request : List Byte} {cmd len : BitVec 16} {k : ℕ} {s : Sent}

/-- The number of an answer. -/
theorem snField_answer (hs : Framed (answerHead (requestHead request) cmd len) k s) :
    snField s.message = [request.getD 13 0, request.getD 12 0, 0, 0] := by
  obtain ⟨body, -, hm⟩ := hs.message
  have hsn : snField s.message = le32 (requestHead request).sn := by rw [hm]; rfl
  have hreq : le32 (IotHead.ofBytes request).sn = _ := le32_get32 request 12
  rw [hsn, requestHead, le32_sn_headLogPrintf, hreq]
  rfl

/-- The netids of an answer. -/
theorem netids_answer (hl : 20 ≤ request.length)
    (hs : Framed (answerHead (requestHead request) cmd len) k s) :
    dnetidField s.message = snetidField request ∧ snetidField s.message = dnetidField request := by
  obtain ⟨body, -, hm⟩ := hs.message
  have hd : dnetidField s.message = le32 (get32 request 8) := by rw [hm]; rfl
  have hs : snetidField s.message = le32 (get32 request 4) := by rw [hm]; rfl
  rw [hd, hs, le32_get32_eq_take (by omega), le32_get32_eq_take (by omega)]
  exact ⟨rfl, rfl⟩

theorem correlates_answer (hl : 20 ≤ request.length)
    (hs : Framed (answerHead (requestHead request) cmd len) k s) :
    Correlates request s.message ↔ SnKept request := by
  have hsn : snField s.message = snField request ↔ SnKept request := by
    rw [snField_answer hs, snField_eq hl, SnKept]
    simp only [List.cons.injEq, and_true]
    constructor
    · rintro ⟨h, -, h₂, h₃⟩
      exact ⟨h.symm, h₂.symm, h₃.symm⟩
    · rintro ⟨h, h₂, h₃⟩
      exact ⟨h.symm, h, h₂.symm, h₃.symm⟩
  obtain ⟨hd, hs⟩ := netids_answer hl hs
  exact ⟨fun h => hsn.1 h.sn, fun h => ⟨hsn.2 h, hd, hs⟩⟩

end

/-! ## Runs -/

/-- **The answers of a run.**  An answer correlates with its request exactly when the number of the
    request is one that comes back as it was. -/
theorem correlates_iff {P : Platform} {deviceid : DeviceId} {evs : List Event} {w : World P}
    (h : (World.init P deviceid).run evs = some w) :
    ∀ s ∈ w.sent, ∀ request, s.cause.request = some request →
      command request ≠ manageUpgradeCode → (Correlates request s.message ↔ SnKept request) := by
  intro s hs request hr hu
  obtain ⟨hl, hreply⟩ := ((history_run h).sent s hs).reply hr
  rcases hreply with ⟨cmd, k, -, -, -, -, hf⟩ | ⟨-, hf⟩ | ⟨hc, -⟩
  · exact correlates_answer hl hf
  · exact correlates_answer hl hf
  · exact absurd ((cmd_requestHead request).symm.trans hc) hu

theorem correlates_sampleRequest :
    ∃ w, (World.init .sample sampleId).run [sampleRequest 0 linkReadInformation] = some w ∧
      ∃ s ∈ w.sent, Correlates (sampleMessage 0 linkReadInformation) s.message := by
  obtain ⟨w, hw, s, hmem, hr⟩ := sampleRequest_answered
  have hsn : SnKept (sampleMessage 0 linkReadInformation) := by
    unfold SnKept
    decide +kernel
  exact ⟨w, hw, s, hmem, (correlates_iff hw s hmem _ hr (by decide +kernel)).2 hsn⟩

/-- The request number 1 is answered with the number 0. -/
theorem answer_loses_sn :
    ∃ w, (World.init .sample sampleId).run [sampleRequest 1 linkReadInformation] = some w ∧
      ∃ s ∈ w.sent, s.cause.request = some (sampleMessage 1 linkReadInformation) ∧
        ¬ Correlates (sampleMessage 1 linkReadInformation) s.message := by
  have hrun : ((World.init .sample sampleId).run [sampleRequest 1 linkReadInformation]).map
      (fun w => w.sent.map fun s => (s.cause.request, snField s.message)) =
      some [(some (sampleMessage 1 linkReadInformation), [0, 0, 0, 0])] := by decide +kernel
  obtain ⟨w, hw, hl⟩ := Option.map_eq_some_iff.1 hrun
  obtain ⟨s, ss, hs, hr, -⟩ := List.map_eq_cons_iff.1 hl
  obtain ⟨hr, hsn⟩ := Prod.mk.inj hr
  refine ⟨w, hw, s, by rw [hs]; exact List.mem_cons_self, hr, fun h => ?_⟩
  have hsn' : snField (sampleMessage 1 linkReadInformation) = [0, 0, 0, 1] := by decide +kernel
  have heq := h.sn
  rw [hsn, hsn'] at heq
  exact absurd heq (by decide)

end MxchipSpp
