import Virtio9p.Foundation.LittleEndian
import Virtio9p.Protocol.Message

/-!
# The wire format

What the encoder helpers append and the decoder helpers take, as byte strings.
The helpers of `NinePMessage` are related to these encodings once, here; builders
and parsers are then read off field by field.
-/
namespace Virtio9p

open Cursor

namespace Wire

def u8 (v : UInt8) : Bytes := [v]
def u16 (v : UInt16) : Bytes := LittleEndian.encode 2 v.toNat
def u32 (v : UInt32) : Bytes := LittleEndian.encode 4 v.toNat
def u64 (v : UInt64) : Bytes := LittleEndian.encode 8 v.toNat

/-- A string carries its length modulo `2 ^ 16`, then all of its bytes. -/
def str (s : Bytes) : Bytes := u16 (UInt16.ofNat s.length) ++ s

def qid (q : Qid) : Bytes := u8 q.type ++ (u32 q.version ++ u64 q.path)

def stat (s : NinePStat) : Bytes :=
  u64 s.valid ++ (qid s.qid ++ (u32 s.mode ++ (u32 s.uid ++ (u32 s.gid ++ (u64 s.nlink ++
  (u64 s.rdev ++ (u64 s.size ++ (u64 s.blksize ++ (u64 s.blocks ++ (u64 s.atimeSec ++
  (u64 s.atimeNsec ++ (u64 s.mtimeSec ++ (u64 s.mtimeNsec ++ (u64 s.ctimeSec ++
  (u64 s.ctimeNsec ++ (u64 s.btimeSec ++ (u64 s.btimeNsec ++ (u64 s.gen ++
  u64 s.dataVersion))))))))))))))))))

def dirEntry (e : DirEntry) : Bytes :=
  qid e.qid ++ (u64 e.offset ++ (u8 e.type ++ str e.name))

@[simp] theorem u8_length (v : UInt8) : (u8 v).length = 1 := rfl
@[simp] theorem u16_length (v : UInt16) : (u16 v).length = 2 := LittleEndian.encode_length 2 _
@[simp] theorem u32_length (v : UInt32) : (u32 v).length = 4 := LittleEndian.encode_length 4 _
@[simp] theorem u64_length (v : UInt64) : (u64 v).length = 8 := LittleEndian.encode_length 8 _
@[simp] theorem str_length (s : Bytes) : (str s).length = 2 + s.length := by simp [str]
@[simp] theorem qid_length (q : Qid) : (qid q).length = 13 := by simp [qid]
@[simp] theorem stat_length (s : NinePStat) : (stat s).length = 153 := by simp [stat]

@[simp] theorem dirEntry_length (e : DirEntry) : (dirEntry e).length = 24 + e.name.length := by
  simp only [dirEntry, List.length_append, qid_length, u64_length, u8_length, str_length]
  omega

end Wire

/-! ### Encoder helpers -/

namespace NinePMessage

variable (m : NinePMessage)

@[simp] theorem putU8_data (v : UInt8) : (m.putU8 v).data = m.data ++ Wire.u8 v := rfl

@[simp] theorem putU16_data (v : UInt16) : (m.putU16 v).data = m.data ++ Wire.u16 v := by
  simp only [putU16, Wire.u16, LittleEndian.encode_uint16]

@[simp] theorem putU32_data (v : UInt32) : (m.putU32 v).data = m.data ++ Wire.u32 v := by
  simp only [putU32, Wire.u32, LittleEndian.encode_uint32]

@[simp] theorem putU64_data (v : UInt64) : (m.putU64 v).data = m.data ++ Wire.u64 v := by
  simp only [putU64, putU32_data, List.append_assoc, Wire.u32, Wire.u64,
    LittleEndian.encode_uint64]

@[simp] theorem putString_data (s : Bytes) : (m.putString s).data = m.data ++ Wire.str s := by
  simp only [putString, putU16_data, Wire.str, List.append_assoc]

@[simp] theorem putBytes_data (bytes : Bytes) (length : UInt32) :
    (m.putBytes bytes length).data = m.data ++ bytes.take length.toNat := rfl

theorem putStrings_data (names : List Bytes) :
    (names.foldl putString m).data = m.data ++ names.flatMap Wire.str := by
  induction names generalizing m with
  | nil => simp
  | cons name names ih => simp [ih, List.append_assoc]

@[simp] theorem beginMessage_data (type : MessageType) (tag : UInt16) :
    (m.beginMessage type tag).data = Wire.u32 0 ++ (Wire.u8 type.code ++ Wire.u16 tag) := by
  simp [beginMessage, List.append_assoc]

/-- `EndMessage` replaces the four bytes that `BeginMessage` reserved. -/
theorem endMessage_data (v : UInt32) (body : Bytes) (h : m.data = Wire.u32 v ++ body) :
    m.endMessage.data = Wire.u32 (UInt32.ofNat (4 + body.length)) ++ body := by
  have size : m.data.length = 4 + body.length := by simp [h]
  simp only [endMessage, size]
  rw [h, Wire.u32, Wire.u32, ← LittleEndian.encode_uint32, ← LittleEndian.encode_uint32]
  rfl

end NinePMessage

/-! ### Decoder helpers -/

/-- A message as a cursor: its unread input is what follows the read offset. -/
def messageView : View NinePMessage UInt8 where
  rest m := m.data.drop m.readOffset.toNat
  Ready m := m.data.length < 2 ^ 32 ∧ m.readOffset.toNat ≤ m.data.length ∧ m.fault = false
  Frame m m' := m'.data = m.data
  frame_refl _ := rfl
  frame_trans first second := second.trans first

section Getters

variable {m : NinePMessage} {bs tail : Bytes}

private theorem length_le (ready : messageView.Ready m) (rest : messageView.rest m = bs ++ tail) :
    m.readOffset.toNat + bs.length ≤ m.data.length := by
  have total := congrArg List.length rest
  simp only [messageView, List.length_drop, List.length_append] at total ready
  omega

private theorem toNat_add_readOffset (ready : messageView.Ready m)
    (rest : messageView.rest m = bs ++ tail) (n : UInt32) (fits : n.toNat ≤ bs.length) :
    (m.readOffset + n).toNat = m.readOffset.toNat + n.toNat := by
  have bound := length_le ready rest
  have small := ready.1
  rw [UInt32.toNat_add]
  omega

/-- Moving over a prefix of the unread input leaves what follows it. -/
private theorem advance_ready (ready : messageView.Ready m)
    (rest : messageView.rest m = bs ++ tail) (n : UInt32) (size : n.toNat = bs.length)
    (fault : Bool) (clean : fault = false) :
    messageView.Ready (m.advance n fault) ∧ messageView.rest (m.advance n fault) = tail ∧
      messageView.Frame m (m.advance n fault) := by
  have bound := length_le ready rest
  have moved := toNat_add_readOffset ready rest n (by omega)
  subst clean
  refine ⟨⟨ready.1, ?_, ?_⟩, ?_, rfl⟩
  · simp only [NinePMessage.advance, moved]
    omega
  · simp [NinePMessage.advance, ready.2.2]
  · simp only [messageView, NinePMessage.advance, moved] at rest ⊢
    rw [← List.drop_drop, rest, size, List.drop_left]

private theorem byteAt_readOffset (ready : messageView.Ready m)
    (rest : messageView.rest m = bs ++ tail) (k : UInt32) (hk : k.toNat < bs.length) :
    m.byteAt (m.readOffset + k) = bs[k.toNat] := by
  have moved := toNat_add_readOffset ready rest k (by omega)
  have found : (m.data.drop m.readOffset.toNat)[k.toNat]? = some bs[k.toNat] := by
    change (messageView.rest m)[k.toNat]? = _
    rw [rest, List.getElem?_append_left hk, List.getElem?_eq_getElem hk]
  rw [List.getElem?_drop] at found
  simp only [NinePMessage.byteAt, moved, List.getD_eq_getElem?_getD, found, Option.getD_some]

private theorem not_outside (ready : messageView.Ready m)
    (rest : messageView.rest m = bs ++ tail) (n : Nat) (size : n ≤ bs.length) :
    m.outside n = false := by
  have bound := length_le ready rest
  have small := ready.1
  simp only [NinePMessage.outside, List.any_eq_false, List.mem_range, decide_eq_true_eq, not_le]
  intro k hk
  have index : (UInt32.ofNat k).toNat = k := by
    rw [UInt32.toNat_ofNat']
    omega
  rw [toNat_add_readOffset ready rest (UInt32.ofNat k) (by omega), index]
  omega

end Getters

theorem consumes_getU8 (v : UInt8) : Consumes messageView getU8 (Wire.u8 v) v := by
  intro m tail ready rest
  have bound := length_le ready rest
  have byte := byteAt_readOffset ready rest 0 (by simp)
  rw [UInt32.add_zero] at byte
  have inside : ¬ m.data.length ≤ m.readOffset.toNat := by
    simp only [Wire.u8_length] at bound
    omega
  refine ⟨m.advance 1 false, ?_, advance_ready ready rest 1 rfl false rfl⟩
  simp [getU8, inside, byte, Wire.u8]

theorem consumes_getU16 (v : UInt16) : Consumes messageView getU16 (Wire.u16 v) v := by
  intro m tail ready rest
  have bound := length_le ready rest
  have moved := toNat_add_readOffset ready rest 2 (by simp)
  have b₀ := byteAt_readOffset ready rest 0 (by simp)
  have b₁ := byteAt_readOffset ready rest 1 (by simp)
  rw [UInt32.add_zero] at b₀
  have inside : ¬ m.data.length < (m.readOffset + 2).toNat := by
    rw [moved]
    simpa using bound
  have value : (m.byteAt m.readOffset).toUInt16 |||
      ((m.byteAt (m.readOffset + 1)).toUInt16 <<< 8) = v := by
    apply UInt16.toNat_inj.mp
    rw [LittleEndian.decode_uint16, b₀, b₁]
    exact LittleEndian.decode_encode_of_lt (show v.toNat < 256 ^ 2 from v.toNat_lt)
  refine ⟨m.advance 2 (m.outside 2), ?_,
    advance_ready ready rest 2 (by simp) _ (not_outside ready rest 2 (by simp))⟩
  simp only [getU16, if_neg inside, value]

theorem consumes_getU32 (v : UInt32) : Consumes messageView getU32 (Wire.u32 v) v := by
  intro m tail ready rest
  have bound := length_le ready rest
  have moved := toNat_add_readOffset ready rest 4 (by simp)
  have b₀ := byteAt_readOffset ready rest 0 (by simp)
  have b₁ := byteAt_readOffset ready rest 1 (by simp)
  have b₂ := byteAt_readOffset ready rest 2 (by simp)
  have b₃ := byteAt_readOffset ready rest 3 (by simp)
  rw [UInt32.add_zero] at b₀
  have inside : ¬ m.data.length < (m.readOffset + 4).toNat := by
    rw [moved]
    simpa using bound
  have value : (m.byteAt m.readOffset).toUInt32 |||
      ((m.byteAt (m.readOffset + 1)).toUInt32 <<< 8) |||
      ((m.byteAt (m.readOffset + 2)).toUInt32 <<< 16) |||
      ((m.byteAt (m.readOffset + 3)).toUInt32 <<< 24) = v := by
    apply UInt32.toNat_inj.mp
    rw [LittleEndian.decode_uint32, b₀, b₁, b₂, b₃]
    exact LittleEndian.decode_encode_of_lt (show v.toNat < 256 ^ 4 from v.toNat_lt)
  refine ⟨m.advance 4 (m.outside 4), ?_,
    advance_ready ready rest 4 (by simp) _ (not_outside ready rest 4 (by simp))⟩
  simp only [getU32, if_neg inside, value]

theorem consumes_getU64 (v : UInt64) : Consumes messageView getU64 (Wire.u64 v) v := by
  have halves : Wire.u64 v = Wire.u32 (v &&& 0xFFFFFFFF).toUInt32 ++
      Wire.u32 ((v >>> 32) &&& 0xFFFFFFFF).toUInt32 := (LittleEndian.encode_uint64 v).symm
  have value : (v &&& 0xFFFFFFFF).toUInt32.toUInt64 |||
      (((v >>> 32) &&& 0xFFFFFFFF).toUInt32.toUInt64 <<< 32) = v := by
    apply UInt64.toNat_inj.mp
    rw [LittleEndian.decode_uint64]
    have whole := congrArg LittleEndian.decode (LittleEndian.encode_uint64 v)
    rw [LittleEndian.decode_append, LittleEndian.encode_length,
      LittleEndian.decode_encode_of_lt (UInt32.toNat_lt _),
      LittleEndian.decode_encode_of_lt (UInt32.toNat_lt _),
      LittleEndian.decode_encode_of_lt (show v.toNat < 256 ^ 8 from v.toNat_lt)] at whole
    exact whole
  rw [halves]
  refine Consumes.bind (consumes_getU32 _) ?_
  exact Consumes.last (consumes_getU32 _) value

theorem consumes_getBytes (bytes : Bytes) (length : UInt32) (size : bytes.length = length.toNat) :
    Consumes messageView (getBytes length) bytes bytes := by
  intro m tail ready rest
  have bound := length_le ready rest
  have moved := toNat_add_readOffset ready rest length (by omega)
  have inside : ¬ m.data.length < (m.readOffset + length).toNat := by omega
  have clean : decide (m.data.length < m.readOffset.toNat + length.toNat) = false := by
    rw [decide_eq_false_iff_not]
    omega
  have taken : (m.data.drop m.readOffset.toNat).take length.toNat = bytes := by
    change (messageView.rest m).take length.toNat = bytes
    rw [rest, ← size, List.take_left]
  refine ⟨m.advance length (decide (m.data.length < m.readOffset.toNat + length.toNat)), ?_,
    advance_ready ready rest length size.symm _ clean⟩
  simp only [getBytes, if_neg inside, taken]

theorem consumes_getString (s : Bytes) (short : s.length < 2 ^ 16) :
    Consumes messageView getString (Wire.str s) s := by
  have size : s.length = (UInt16.ofNat s.length).toUInt32.toNat := by
    rw [UInt16.toNat_toUInt32, UInt16.toNat_ofNat']
    omega
  exact (consumes_getU16 (UInt16.ofNat s.length)).bind (consumes_getBytes s _ size)

theorem consumes_getQid (q : Qid) : Consumes messageView getQid (Wire.qid q) q := by
  refine Consumes.bind (consumes_getU8 q.type) ?_
  refine Consumes.bind (consumes_getU32 q.version) ?_
  exact Consumes.last (consumes_getU64 q.path) rfl

theorem consumes_getDirEntry (e : DirEntry) (short : e.name.length < 2 ^ 16) :
    Consumes messageView getDirEntry (Wire.dirEntry e) e := by
  refine Consumes.bind (consumes_getQid e.qid) ?_
  refine Consumes.bind (consumes_getU64 e.offset) ?_
  refine Consumes.bind (consumes_getU8 e.type) ?_
  exact Consumes.last (consumes_getString e.name short) rfl

end Virtio9p
