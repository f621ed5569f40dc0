/-
  The control frames of the active build (`OLD`).

  `SendData` writes 18 of the 21 bytes of a frame: bytes 15 to 17 keep what the
  static buffer holds.  Only a query writes there, zeros; so they are zero in
  every run, and a frame is a function of `laststate`, the variable index of
  the command and its value (`buildOld_eq`).
-/
import MxchipSpp.Send

namespace MxchipSpp

open Memory

/-! ## The frame -/

/-- The power byte: only the index 31 sets it. -/
def powerByte (idx : BitVec 16) (v : Byte) : Byte :=
  if idx = 31 then if v = 0 then 2 else 1 else 0

/-- The settings of the device, one of them replaced. -/
def newSettings (settings : List Byte) (idx : BitVec 16) (v : Byte) : List Byte :=
  if idx = 5005 then settings.set 0 v
  else if idx = 5022 then settings.set 1 (if v = 0 then 0 else 0x10)
  else if idx = 608 then settings.set 2 v
  else if idx = 5023 then settings.set 3 v
  else settings

/-- A control frame up to its check field. -/
def setBody (settings : List Byte) (idx : BitVec 16) (v : Byte) : List Byte :=
  [0xF5, 0xF5, 0xF5, 0xF5, 0, 1, 0x03, 0x0B, 1, 0, powerByte idx v] ++ newSettings settings idx v ++
    [0, 0, 0, 0x0B]

/-- The query for the whole state, up to its check field. -/
def queryBody : List Byte := [0xF5, 0xF5, 0xF5, 0xF5, 0, 1, 0x04, 0x0B, 1, 0] ++ List.replicate 9 0

/-- A frame and its check field. -/
def withCrc (body : List Byte) : List Byte :=
  body ++ [(crcCal body).extractLsb' 8 8, (crcCal body).extractLsb' 0 8]

/-- What is sent for a command. -/
def controlFrame (settings : List Byte) (idx : BitVec 16) (v : Byte) : List Byte :=
  withCrc (if idx = 11 then queryBody else setBody settings idx v)

/-- `funindex`, the variable index of the command in the slot. -/
def funindex (d : Dev) : BitVec 16 := d.datadown.data 3 ++ d.datadown.data 4

/-- Bytes 15 to 17 of the static buffer are zero. -/
def ZeroGap (tempbuf : Block Byte 250) : Prop := ∃ rest, tempbuf.cells.drop 15 = 0 :: 0 :: 0 :: rest

section
variable {d e : Dev} {ok first : Bool} {data : List Byte}

theorem length_newSettings (settings : List Byte) (idx : BitVec 16) (v : Byte) :
    (newSettings settings idx v).length = settings.length := by
  unfold newSettings; split_ifs <;> simp

/-- `SendData` up to the function index: the head, `laststate` and the network state. -/
theorem head_cells {tempbuf : Block Byte 250} (h : ZeroGap tempbuf) (last : Block Byte 4)
    (hput : 0 + [0xF5, 0xF5, 0xF5, 0xF5, 0, 1, (0x03 : Byte), 11, 1, 0, 0].length ≤ 250)
    (hput' : 11 + last.cells.length ≤ 250) :
    ∃ rest, (((tempbuf.put 0 [0xF5, 0xF5, 0xF5, 0xF5, 0, 1, 0x03, 11, 1, 0, 0] hput).set 18 11).put 11
      last.cells hput').cells =
        [0xF5, 0xF5, 0xF5, 0xF5, 0, 1, 0x03, 11, 1, 0, 0] ++ last.cells ++ [0, 0, 0, 11] ++ rest := by
  obtain ⟨rest, hr⟩ := h
  have hlen := congrArg List.length hr
  simp only [List.length_drop, Block.length_cells, List.length_cons] at hlen
  cases rest with
  | nil => simp at hlen
  | cons x rest =>
    refine ⟨rest, ?_⟩
    have hset : ∀ (b : Block Byte 250) (x : Byte), (b.set 18 x).cells = b.cells.set 18 x := fun _ _ => rfl
    have hdrop : (tempbuf.cells.drop 11).drop 4 = 0 :: 0 :: 0 :: x :: rest := by
      rw [List.drop_drop, hr]
    rw [Block.cells_put, hset, Block.cells_put_zero, Block.length_cells,
      List.set_append_right _ _ (by decide)]
    change [0xF5, 0xF5, 0xF5, 0xF5, 0, 1, 0x03, 11, 1, 0, 0] ++
      (last.cells ++ ((tempbuf.cells.drop 11).set 7 11).drop 4) = _
    rw [List.drop_set, if_neg (by decide), hdrop, List.append_assoc, List.append_assoc]
    rfl

/-- The field of the control frame that depends on the function index. -/
theorem setFunction_cells {tempbuf : Block Byte 250} {settings rest : List Byte}
    (hs : settings.length = 4)
    (ht : tempbuf.cells = [0xF5, 0xF5, 0xF5, 0xF5, 0, 1, 0x03, 11, 1, 0, 0] ++ settings ++
      [0, 0, 0, 11] ++ rest) :
    (setFunction d tempbuf).cells =
      (if funindex d = 11 then queryBody else setBody settings (funindex d) (ctrlValue d)) ++ rest := by
  obtain ⟨x₁, x₂, x₃, x₄, rfl⟩ : ∃ x₁ x₂ x₃ x₄, settings = [x₁, x₂, x₃, x₄] := by
    match settings, hs with
    | [x₁, x₂, x₃, x₄], _ => exact ⟨x₁, x₂, x₃, x₄, rfl⟩
  have hset : ∀ (i : Fin 250) (x : Byte), (tempbuf.set i x).cells = tempbuf.cells.set i x :=
    fun _ _ => rfl
  have hidx : d.datadown.data 3 ++ d.datadown.data 4 = funindex d := rfl
  simp only [setFunction, hidx]
  generalize funindex d = idx
  by_cases h₁ : idx = 11
  · simp only [if_pos h₁]
    rw [Block.cells_put]
    change ((tempbuf.cells.set 6 4).take 10) ++ (_ ++ (tempbuf.cells.set 6 4).drop 19) = _
    rw [ht]
    rfl
  simp only [if_neg h₁, setBody, powerByte, newSettings]
  by_cases h₂ : idx = 31
  · subst h₂
    rw [if_pos rfl, hset, ht]
    rfl
  rw [if_neg h₂, if_neg h₂]
  by_cases h₃ : idx = 5005
  · simp only [if_pos h₃]
    rw [hset, ht]
    rfl
  by_cases h₄ : idx = 5022
  · simp only [if_neg h₃, if_pos h₄]
    rw [hset, ht]
    rfl
  by_cases h₅ : idx = 608
  · simp only [if_neg h₃, if_neg h₄, if_pos h₅]
    rw [hset, ht]
    rfl
  by_cases h₆ : idx = 5023
  · simp only [if_neg h₃, if_neg h₄, if_neg h₅, if_pos h₆]
    rw [hset, ht]
    rfl
  · simp only [if_neg h₃, if_neg h₄, if_neg h₅, if_neg h₆]
    rw [ht]

/-- Behind the settings stand three zeros. -/
theorem drop_setBody {settings : List Byte} (hs : settings.length = 4) (idx : BitVec 16) (v : Byte) :
    (setBody settings idx v).drop 15 = [0, 0, 0, 0x0B] ∧ (setBody settings idx v).length = 19 := by
  have hlen : ([0xF5, 0xF5, 0xF5, 0xF5, 0, 1, 0x03, 0x0B, 1, 0, powerByte idx v] ++
      newSettings settings idx v).length = 15 := by
    rw [List.length_append, length_newSettings, hs]
    rfl
  exact ⟨by rw [setBody, List.drop_left' hlen], by rw [setBody, List.length_append, hlen]; rfl⟩

/-- **What `SendData(1)` builds**: a function of `laststate`, the variable index and the value; and
    the buffer is ready for the next frame. -/
theorem buildOld_eq (h : ZeroGap d.sendData.tempbuf) :
    (buildOld d).1.slice 0 (buildOld d).2 =
        some (controlFrame d.laststate.cells (funindex d) (ctrlValue d)) ∧
      ZeroGap (buildOld d).1 := by
  obtain ⟨rest, hr⟩ := head_cells h d.laststate (by simp) (by simp)
  have hbody := setFunction_cells (d := d) d.laststate.size hr
  set body := (if funindex d = 11 then queryBody
    else setBody d.laststate.cells (funindex d) (ctrlValue d)) with hb
  obtain ⟨hlen, x, hgap⟩ : body.length = 19 ∧ ∃ x, body.drop 15 = [0, 0, 0, x] := by
    rw [hb]
    split_ifs
    · exact ⟨rfl, 0, rfl⟩
    · obtain ⟨h₁, h₂⟩ := drop_setBody d.laststate.size (funindex d) (ctrlValue d)
      exact ⟨h₂, _, h₁⟩
  have hcells : (buildOld d).1.cells = withCrc body ++ rest.drop 2 := by
    rw [withCrc, buildOld, Block.cells_put, hbody, List.take_left' hlen, List.append_assoc]
    change body ++ (_ ++ (body ++ rest).drop (19 + 2)) = _
    rw [← hlen, List.drop_append, List.drop_of_length_le (Nat.le_add_right _ _), List.nil_append,
      Nat.add_sub_cancel_left]
  have hwlen : (withCrc body).length = 21 := by
    rw [withCrc, List.length_append, hlen]
    rfl
  have hi : (buildOld d).2 = 21 := rfl
  refine ⟨?_, x :: ([(crcCal body).extractLsb' 8 8, (crcCal body).extractLsb' 0 8] ++ rest.drop 2), ?_⟩
  · rw [hi, Block.slice_of_le _ (by decide), hcells, List.drop_zero, List.take_left' hwlen]
    rfl
  · rw [hcells, withCrc, List.append_assoc, List.drop_append_of_le_length (by omega), hgap]
    rfl

/-- What the static variables of `SendData` keep between two calls. -/
structure SendReady (s : SendDataStatics) : Prop where
  i_le : s.i ≤ 250
  gap : ZeroGap s.tempbuf

theorem wrUartBuf_isSome (ok : Bool) (h : d.sendData.i ≤ 250) :
    ∃ r, wrUartBuf ok d = some r ∧ r.1.sendData = d.sendData := by
  rw [wrUartBuf, Block.slice_of_le _ (by omega)]
  exact ⟨_, rfl, by split_ifs <;> rfl⟩

theorem sendData_old (first ok : Bool) (h : SendReady d.sendData) :
    ∃ r, sendData .old first ok d = some r ∧ SendReady r.1.sendData := by
  unfold sendData
  split_ifs
  · obtain ⟨r, hr, hs⟩ := wrUartBuf_isSome ok
      (d := { d with sendData := ⟨(buildOld d).2, (buildOld d).1⟩ }) (show 21 ≤ 250 by omega)
    exact ⟨r, hr, by rw [hs]; exact ⟨show 21 ≤ 250 by omega, (buildOld_eq h.gap).2⟩⟩
  · obtain ⟨r, hr, hs⟩ := wrUartBuf_isSome ok h.i_le
    exact ⟨r, hr, by rw [hs]; exact h⟩

/-- `SendData(1)` passes `WrUartBuf` the bytes `frame`, whatever that answers. -/
def Emits (b : Build) (d : Dev) (frame : List Byte) : Prop :=
  ∀ ok, ∃ e, sendData b true ok d = some (e, ok) ∧
    e.sendData.tempbuf.slice 0 e.sendData.i = some frame ∧
    e.hist.uart = d.hist.uart ++ if ok then [frame] else []

/-- **The control frame.** -/
theorem emits_controlFrame (h : SendReady d.sendData) :
    Emits .old d (controlFrame d.laststate.cells (funindex d) (ctrlValue d)) := by
  intro ok
  have hframe := (buildOld_eq h.gap).1
  simp only [sendData, if_true, buildFrame, Option.bind_some, wrUartBuf, hframe, Option.map_some]
  cases ok with
  | true => exact ⟨_, rfl, hframe, rfl⟩
  | false => exact ⟨_, rfl, hframe, (List.append_nil _).symm⟩

theorem Emits.unique {b : Build} {f₁ f₂ : List Byte} (h₁ : Emits b d f₁) (h₂ : Emits b d f₂) :
    f₁ = f₂ := by
  obtain ⟨e, he, hf, -⟩ := h₁ true
  obtain ⟨e', he', hf', -⟩ := h₂ true
  rw [he, Option.some.injEq, Prod.mk.injEq] at he'
  rw [← he'.1, hf] at hf'
  exact Option.some.inj hf'

end

end MxchipSpp
