import Virtio9p.Protocol.Request
import Virtio9p.Resmgr.ChunkRounds

/-!
# Files on the server

What a server that serves every read and write in full does to a file, and such a
server.
-/
namespace Virtio9p

open Cursor NinePMessage

/-! ### Reading and writing a file -/

/-- The bytes of a read at `offset`, up to the end of the file. -/
def readAt (contents : Bytes) (offset : UInt64) (n : Nat) : Bytes :=
  (contents.drop offset.toNat).take n

/-- Store one byte; a hole up to it reads as zeros. -/
def putByte (contents : Bytes) (offset : UInt64) (b : UInt8) : Bytes :=
  (contents ++ List.replicate (offset.toNat + 1 - contents.length) 0).set offset.toNat b

def writeAt : Bytes → UInt64 → Bytes → Bytes
  | contents, _, [] => contents
  | contents, offset, b :: bs => writeAt (putByte contents offset b) (offset + 1) bs

theorem writeAt_append (contents : Bytes) (offset : UInt64) (xs ys : Bytes) :
    writeAt contents offset (xs ++ ys) =
      writeAt (writeAt contents offset xs) (offset + UInt64.ofNat xs.length) ys := by
  induction xs generalizing contents offset with
  | nil => simp [writeAt]
  | cons x xs ih =>
    have moved : offset + 1 + UInt64.ofNat xs.length = offset + UInt64.ofNat (x :: xs).length := by
      rw [UInt64.add_assoc, List.length_cons, UInt64.ofNat_add, UInt64.add_comm 1]
      rfl
    rw [List.cons_append, writeAt, writeAt, ih, moved]

@[simp] theorem putByte_length (contents : Bytes) (offset : UInt64) (b : UInt8) :
    (putByte contents offset b).length = max contents.length (offset.toNat + 1) := by
  simp only [putByte, List.length_set, List.length_append, List.length_replicate]
  omega

theorem length_le_writeAt (contents : Bytes) (offset : UInt64) (data : Bytes) :
    contents.length ≤ (writeAt contents offset data).length := by
  induction data generalizing contents offset with
  | nil => exact Nat.le_refl _
  | cons b bs ih =>
    have rest := ih (putByte contents offset b) (offset + 1)
    rw [putByte_length] at rest
    rw [writeAt]
    omega

/-- A file that stays within a signed offset ends where the write ends or where it ended. -/
theorem writeAt_length {contents : Bytes} {offset : UInt64} {data : Bytes} (some : data ≠ [])
    (small : (writeAt contents offset data).length < 2 ^ 63) :
    (writeAt contents offset data).length = max contents.length (offset.toNat + data.length) := by
  induction data generalizing contents offset with
  | nil => exact absurd rfl some
  | cons b bs ih =>
    rw [writeAt] at small ⊢
    have put := putByte_length contents offset b
    have kept := length_le_writeAt (putByte contents offset b) (offset + 1) bs
    have next : (offset + 1).toNat = offset.toNat + 1 := by
      have one : (1 : UInt64).toNat = 1 := rfl
      rw [UInt64.toNat_add, one]
      omega
    by_cases last : bs = []
    · rw [last]
      exact put
    · rw [ih last small, next, put, List.length_cons]
      omega

/-! ### Servers that serve in full -/

variable {σ : Type}

/-- A server that serves every Tread and Twrite on `fid` in full; `contents` is the file
that the fid stands for. -/
structure Transport.ServesFile (T : Transport σ) (fid : UInt32) (contents : σ → Bytes) : Prop where
  read : ∀ s tag offset count, ∃ s',
    T.exchange (buildTread tag fid offset count).data s =
      ((0, ((Response.rread (readAt (contents s) offset count.toNat)).encode tag).data), s') ∧
    contents s' = contents s
  write : ∀ s tag offset data, data.length < 2 ^ 32 → ∃ s',
    T.exchange (buildTwrite tag fid offset data (UInt32.ofNat data.length)).data s =
      ((0, ((Response.rwrite (UInt32.ofNat data.length)).encode tag).data), s') ∧
    contents s' = writeAt (contents s) offset data

section Serves

variable {T : Transport σ} {contents : σ → Bytes}

theorem Transport.ServesFile.acknowledges {fid : UInt32} (serves : T.ServesFile fid contents) :
    T.Acknowledges fid := by
  intro s tag offset data bound
  obtain ⟨s', exchange, _⟩ := serves.write s tag offset data bound
  exact ⟨s', exchange⟩

theorem Transport.ServesFile.takesWrites {fid : UInt32} (serves : T.ServesFile fid contents) :
    T.TakesWrites fid fun s offset data s' => contents s' = writeAt (contents s) offset data := by
  intro s tag offset data bound
  obtain ⟨s', exchange, written⟩ := serves.write s tag offset data bound
  refine ⟨s', .inl ⟨data.length, Nat.le_refl _, exchange, ?_⟩⟩
  rw [List.take_length]
  exact written

theorem contents_sendWrites {fid : UInt32} (serves : T.ServesFile fid contents)
    (chunks : List Bytes) (bounds : ∀ c ∈ chunks, c.length < 2 ^ 32) (offset : UInt64)
    (w : Link σ) :
    contents (w.sendWrites T fid offset chunks).transport =
      writeAt (contents w.transport) offset chunks.flatten := by
  induction chunks generalizing offset w with
  | nil => rfl
  | cons data rest ih =>
    obtain ⟨s', exchange, stored⟩ := serves.write w.transport w.session.nextTag offset data
      (bounds data List.mem_cons_self)
    rw [Link.sendWrites, ih fun c member => bounds c (List.mem_cons_of_mem data member),
      List.flatten_cons, writeAt_append]
    congr 1
    change contents (T.exchange (buildTwrite w.session.nextTag fid offset data
      (UInt32.ofNat data.length)).data w.transport).2 = _
    rw [exchange]
    exact stored

end Serves

/-! ### Reads that are answered at once -/

theorem read_answered {T : Transport σ} {fid : UInt32} {offset : UInt64} {count : UInt32}
    {w : Link σ} {data : Bytes} (small : 11 + data.length < 2 ^ 32)
    (answers : w.Answers T (fun tag => buildTread tag fid offset count) (.rread data)) :
    read T fid offset count w = (some (Int32.ofNat data.length, data),
      w.callOnce T fun tag => buildTread tag fid offset count) := by
  have countNat : data.length = (UInt32.ofNat data.length).toNat := by
    rw [UInt32.toNat_ofNat']
    omega
  have payload : (Response.rread data).payload = Wire.u32 (UInt32.ofNat data.length) ++ data := by
    rw [Response.payload, ← countNat, List.take_length]
  -- the parser reads back the bytes of the file
  have parsed : markFault parseRread (ofData ((Response.rread data).encode
      w.session.nextTag).data) = some (data, false) := by
    have consumes : Consumes messageView rreadFields (Response.rread data).payload data := by
      rw [payload]
      exact consumes_rreadFields data _ countNat
    have whole : parseRread (ofData ((Response.rread data).encode w.session.nextTag).data) = _ :=
      parsePayload_encode (.rread data) w.session.nextTag consumes
        (by rw [payload, List.length_append, Wire.u32_length]; omega)
    rw [markFault, whole]
    rfl
  rw [read, call_answered answers (markFault parseRread) (by simp [Response.type]) parsed]
  rfl

theorem read_refused {T : Transport σ} {fid : UInt32} {offset : UInt64} {count : UInt32}
    {w : Link σ} {ecode : UInt32}
    (answers : w.Answers T (fun tag => buildTread tag fid offset count) (.rlerror ecode)) :
    read T fid offset count w = (some (refusal ecode, []),
      w.callOnce T fun tag => buildTread tag fid offset count) := by
  have only : ParsesOnly .rread (markFault parseRread) := markFault_only .rread rreadFields
  rw [read, call_rlerror only (by decide) answers]

/-! ### A server with one file -/

/-- Every fid stands for the file. -/
def fileServer : Transport Bytes where
  exchange request file :=
    let tag := UInt16.ofNat (LittleEndian.decode ((request.drop 5).take 2))
    let offset := UInt64.ofNat (LittleEndian.decode ((request.drop 11).take 8))
    if request.getD 4 0 = MessageType.tread.code then
      let count := LittleEndian.decode ((request.drop 19).take 4)
      ((0, ((Response.rread (readAt file offset count)).encode tag).data), file)
    else
      let data := request.drop 23
      ((0, ((Response.rwrite (UInt32.ofNat data.length)).encode tag).data),
        writeAt file offset data)

theorem fileServer_serves (fid : UInt32) : fileServer.ServesFile fid id := by
  constructor
  · intro file tag offset count
    let r := Request.tread fid offset count
    have type : (r.build tag).data.getD 4 0 = MessageType.tread.code := by
      rw [r.build_data tag]
      rfl
    have offsetField : ((r.build tag).data.drop 11).take 8 = Wire.u64 offset := by
      rw [r.drop_build tag 4, show r.payload = Wire.u32 fid ++ (Wire.u64 offset ++ Wire.u32 count)
        from rfl, List.drop_left' (by simp), List.take_left' (by simp)]
    have countField : ((r.build tag).data.drop 19).take 4 = Wire.u32 count := by
      rw [r.drop_build tag 12, show r.payload = (Wire.u32 fid ++ Wire.u64 offset) ++ Wire.u32 count
        by simp [r, Request.payload, List.append_assoc], List.drop_left' (by simp),
        List.take_of_length_le (by simp)]
    refine ⟨file, ?_, rfl⟩
    change fileServer.exchange (r.build tag).data file = _
    simp only [fileServer, type, offsetField, countField, Request.tag_build, if_true]
    rw [Wire.u64, Wire.u32, LittleEndian.decode_encode_of_lt (UInt64.toNat_lt offset),
      LittleEndian.decode_encode_of_lt (UInt32.toNat_lt count), UInt64.ofNat_toNat]
    rfl
  · intro file tag offset data bound
    let r := Request.twrite fid offset data
    have count : (UInt32.ofNat data.length).toNat = data.length := by
      rw [UInt32.toNat_ofNat']
      omega
    have payload : r.payload = Wire.u32 fid ++ (Wire.u64 offset ++
        (Wire.u32 (UInt32.ofNat data.length) ++ data)) := by
      change Wire.u32 fid ++ (Wire.u64 offset ++ (Wire.u32 (UInt32.ofNat data.length) ++
        data.take (UInt32.ofNat data.length).toNat)) = _
      rw [count, List.take_length]
    have type : (r.build tag).data.getD 4 0 ≠ MessageType.tread.code := by
      rw [r.build_data tag]
      change MessageType.twrite.code ≠ MessageType.tread.code
      decide
    have offsetField : ((r.build tag).data.drop 11).take 8 = Wire.u64 offset := by
      rw [r.drop_build tag 4, payload, List.drop_left' (by simp), List.take_left' (by simp)]
    have dataField : (r.build tag).data.drop 23 = data := by
      rw [r.drop_build tag 16, payload, ← List.append_assoc, ← List.append_assoc]
      exact List.drop_left' (by simp)
    refine ⟨writeAt file offset data, ?_, rfl⟩
    change fileServer.exchange (r.build tag).data file = _
    simp only [fileServer, if_neg type, offsetField, dataField, Request.tag_build]
    rw [Wire.u64, LittleEndian.decode_encode_of_lt (UInt64.toNat_lt offset), UInt64.ofNat_toNat]
    rfl

end Virtio9p
