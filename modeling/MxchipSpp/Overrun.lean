/-
  The buffer of `SendData` (`OLD` undefined).

  `DataDownWr` takes up to 128 bytes, whatever they are; each `0xF5` among them
  and in the check field takes two bytes of the frame.  A frame that does not
  fit the buffer of 250 bytes is written past its end.
-/
import MxchipSpp.RoundTrip

namespace MxchipSpp

open Memory Stuffing

/-- `SendData(1)` stays in its buffer for the command `payload`, and passes `WrUartBuf` exactly the
    header, the stuffed data and the stuffed check field. -/
def SendsWhole (f ok : Bool) (d : Dev) (payload : List Byte) : Prop :=
  ∃ e, sendData (.new f) true ok (dataDownWr d payload).1 = some (e, ok) ∧
    e.sendData.tempbuf.slice 0 e.sendData.i = some (lineFrame d.datadown.framectrl payload) ∧
    (ok = true → e.hist.uart = d.hist.uart ++ [lineFrame d.datadown.framectrl payload])

section
variable {d : Dev} {ctrl : Byte} {payload : List Byte} {f ok : Bool}

/-- A byte that does not fit is written past the end of the buffer; the index is far from 256. -/
theorem transData_eq_none (buf : Block Byte 250) {i : ℕ} {x : Byte} (hi : i ≤ 250)
    (h : 250 < i + (escape frameHeader 0x55 x).length) : transData (buf, i) x = none := by
  have hnone : ∀ (b : Block Byte 250) (y : Byte), b.write 250 [y] = none := by
    intro b y
    rw [← Option.not_isSome_iff_eq_none, Block.write_isSome]; simp
  by_cases hx : x = frameHeader
  · rw [escape, if_pos hx] at h
    simp only [List.length_cons, List.length_nil] at h
    rw [transData, if_neg (not_not.2 hx)]
    rcases Nat.lt_or_ge i 250 with hi' | hi'
    · obtain rfl : i = 249 := by omega
      rw [Block.write_of_le buf (show 249 + [x].length ≤ 250 by simp)]
      have hu : u8 ((249 : ℕ) + 1) = 250 := by decide
      simp only [Option.bind_eq_bind, Option.bind_some, hu, hnone, Option.bind_none]
    · obtain rfl : i = 250 := by omega
      simp only [hnone, Option.bind_eq_bind, Option.bind_none]
  · rw [escape, if_neg hx, List.length_singleton] at h
    obtain rfl : i = 250 := by omega
    rw [transData, if_pos hx]
    simp only [hnone, Option.bind_eq_bind, Option.bind_none]

theorem foldlM_transData_eq_none (data : List Byte) (buf : Block Byte 250) {i : ℕ} (hi : i ≤ 250)
    (h : 250 < i + (stuffed data).length) : data.foldlM transData (buf, i) = none :=
  foldlM_escape_eq_none (fun b _ _ h => transData_escape b h)
    (fun b _ _ hi h => transData_eq_none b hi h) data buf hi h

/-- **A frame that does not fit is written past the end.** -/
theorem buildNew_eq_none (hctrl : d.datadown.framectrl = ctrl)
    (hlen : d.datadown.datalen = BitVec.ofNat 8 (payload.length + 2))
    (hcmd : d.datadown.command = payload) (hl : payload.length ≤ 128)
    (hfit : 250 < (lineFrame ctrl payload).length) : buildNew d = none := by
  have hwl := length_lineFrame ctrl payload
  rcases Nat.lt_or_ge 250 (wireBody ctrl payload).length with hb | hb
  · have hn : d.datadown.datalen.toNat - 2 = payload.length := by
      rw [hlen, toNat_datalen hl, Nat.add_sub_cancel]
    have hslice : d.datadown.bytes.slice 4 payload.length = some payload := by
      rw [Block.slice_of_le _ (by omega), ← hn]; exact congrArg some hcmd
    have h₄ : 0 + [0xF5, 0xF5, ctrl, BitVec.ofNat 8 (payload.length + 2)].length ≤ 250 := by simp
    have hnone := foldlM_transData_eq_none payload
      (d.sendData.tempbuf.put 0 [0xF5, 0xF5, ctrl, BitVec.ofNat 8 (payload.length + 2)] h₄)
      (i := 4) (by decide) (by rw [← length_wireBody ctrl]; exact hb)
    simp only [buildNew, hctrl, hlen, toNat_datalen hl, Nat.add_sub_cancel, hslice,
      if_pos (show payload.length ≤ 131 by omega), Block.write_of_le _ h₄, hnone,
      Option.bind_eq_bind, Option.bind_some, Option.bind_none]
  · rw [buildNew_eq hctrl hlen hcmd hl (by omega)]
    exact foldlM_transData_eq_none _ _ hb (by omega)

/-- What a command takes in the buffer. -/
theorem length_lineFrame_eq (ctrl : Byte) (payload : List Byte) :
    (lineFrame ctrl payload).length = 4 + payload.length + payload.count frameHeader +
      (lineCheck ctrl (wireBody ctrl payload)).length +
      (lineCheck ctrl (wireBody ctrl payload)).count frameHeader := by
  rw [length_lineFrame, length_wireBody, stuffed, stuffed, length_stuff, length_stuff]
  omega

/-- **When `SendData` stays in its buffer**: for a command taken, exactly if the header, the data and
    the check field, with a byte more for each `0xF5`, are at most 250 bytes. -/
theorem sendsWhole_iff (hacc : (dataDownWr d payload).2 = true) :
    SendsWhole f ok d payload ↔
      4 + payload.length + payload.count frameHeader +
        (lineCheck d.datadown.framectrl (wireBody d.datadown.framectrl payload)).length +
        (lineCheck d.datadown.framectrl (wireBody d.datadown.framectrl payload)).count frameHeader ≤
          250 := by
  obtain ⟨hs, hl⟩ := fits_of_dataDownWr hacc
  rw [← length_lineFrame_eq]
  constructor
  · rintro ⟨e, he, -⟩
    by_contra hfit
    obtain ⟨s, hd, hst⟩ := dataDownWr_taken hs hl
    have hnone := buildNew_eq_none
      (d := { d with datadown := s, hist.taken := d.hist.taken ++ [payload] })
      hst.framectrl hst.datalen hst.command hl (by omega)
    rw [hd, sendData, if_pos rfl, buildFrame, hnone] at he
    cases he
  · exact sendData_lineFrame ok hs hl

end

/-- A command with a `0xF5`. -/
theorem sendsWhole_header : SendsWhole true true devParaInit [1, 0xF5] :=
  (sendsWhole_iff rfl).2 (by decide +kernel)

/-- 128 bytes `0xF5` are taken, and do not fit. -/
theorem headers_overrun : (dataDownWr devParaInit (List.replicate 128 0xF5)).2 = true ∧
    ¬ ∃ ok, SendsWhole true ok devParaInit (List.replicate 128 0xF5) := by
  have hnone : (buildFrame (.new true) (dataDownWr devParaInit (List.replicate 128 0xF5)).1).isNone :=
    by decide +kernel
  refine ⟨by decide +kernel, fun ⟨ok, e, he, _⟩ => ?_⟩
  rw [sendData, if_pos rfl, Option.isNone_iff_eq_none.1 hnone] at he
  cases he

end MxchipSpp
