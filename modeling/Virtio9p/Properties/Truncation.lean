import Virtio9p.Protocol.Parser

/-!
# Truncated responses

A parser returns true whenever the type byte is its own. What it delivers is the
value encoded in the payload exactly when the payload holds as many bytes as its own
length fields announce.
-/
namespace Virtio9p

open Cursor NinePMessage

/-- The little-endian word of `width` bytes in front. -/
def word (width : Nat) (p : Bytes) : Nat := LittleEndian.decode (p.take width)

/-- The bytes are cut into whole directory entries by the lengths of their names. -/
inductive WholeEntries : Bytes → Prop
  | nil : WholeEntries []
  | entry {p : Bytes} (fixed : 24 ≤ p.length) (name : 24 + word 2 (p.drop 22) ≤ p.length)
      (rest : WholeEntries (p.drop (24 + word 2 (p.drop 22)))) : WholeEntries p

/-- The payload is as long as its own length fields say. -/
def Complete : MessageType → Bytes → Prop
  | .rversion, p => 6 ≤ p.length ∧ 6 + word 2 (p.drop 4) ≤ p.length
  | .rattach, p => 13 ≤ p.length
  | .rwalk, p => 2 ≤ p.length ∧ 2 + 13 * word 2 p ≤ p.length
  | .rlopen, p => 17 ≤ p.length
  | .rread, p => 4 ≤ p.length ∧ 4 + word 4 p ≤ p.length
  | .rgetattr, p => 153 ≤ p.length
  | .rreaddir, p =>
    4 ≤ p.length ∧ 4 + word 4 p ≤ p.length ∧ WholeEntries ((p.drop 4).take (word 4 p))
  | .rwrite, p => 4 ≤ p.length
  | .rlcreate, p => 17 ≤ p.length
  | .rmkdir, p => 13 ≤ p.length
  | _, _ => True

/-- The responses whose parsers read a payload. -/
def payloadTypes : List MessageType :=
  [.rversion, .rattach, .rwalk, .rlopen, .rread, .rgetattr, .rreaddir, .rwrite, .rlcreate, .rmkdir]

/-- If the parser returns true, the payload begins with the encoding of the value it
delivers, and nothing outside the buffer was read. -/
def ParsesExactly (type : MessageType) (response : Bytes) : Prop :=
  ∀ r m, parseResponse type (ofData response) = (some r, m) →
    m.fault = false ∧ r.Fits ∧ ∃ rest, response.drop 7 = r.payload ++ rest

/-! ### Every byte string of the right length encodes a word -/

section Split

variable {p : Bytes}

theorem split_u8 (long : 1 ≤ p.length) : ∃ v rest, p = Wire.u8 v ++ rest := by
  cases p with
  | nil => simp at long
  | cons b rest => exact ⟨b, rest, rfl⟩

private theorem take_eq_encode {width n : Nat} (long : width ≤ p.length)
    (value : word width p = n) :
    p.take width = LittleEndian.encode width n := by
  have size : (p.take width).length = width := List.length_take_of_le long
  have bound := LittleEndian.decode_lt (p.take width)
  rw [size] at bound
  rw [← value]
  exact (LittleEndian.eq_encode_iff bound _).mpr ⟨size, rfl⟩

private theorem word_lt (width : Nat) : word width p < 256 ^ width := by
  have bound := LittleEndian.decode_lt (p.take width)
  have size : (p.take width).length ≤ width := List.length_take_le width p
  exact lt_of_lt_of_le bound (Nat.pow_le_pow_right (by decide) size)

theorem split_u16 (long : 2 ≤ p.length) :
    ∃ v rest, p = Wire.u16 v ++ rest ∧ v.toNat = word 2 p := by
  have value : (UInt16.ofNat (word 2 p)).toNat = word 2 p := by
    have bound := word_lt (p := p) 2
    rw [UInt16.toNat_ofNat']
    omega
  refine ⟨UInt16.ofNat (word 2 p), p.drop 2, ?_, value⟩
  rw [Wire.u16, value, ← take_eq_encode long rfl, List.take_append_drop]

theorem split_u32 (long : 4 ≤ p.length) :
    ∃ v rest, p = Wire.u32 v ++ rest ∧ v.toNat = word 4 p := by
  have value : (UInt32.ofNat (word 4 p)).toNat = word 4 p := by
    have bound := word_lt (p := p) 4
    rw [UInt32.toNat_ofNat']
    omega
  refine ⟨UInt32.ofNat (word 4 p), p.drop 4, ?_, value⟩
  rw [Wire.u32, value, ← take_eq_encode long rfl, List.take_append_drop]

theorem split_u64 (long : 8 ≤ p.length) : ∃ v rest, p = Wire.u64 v ++ rest := by
  have value : (UInt64.ofNat (word 8 p)).toNat = word 8 p := by
    have bound := word_lt (p := p) 8
    rw [UInt64.toNat_ofNat']
    omega
  refine ⟨UInt64.ofNat (word 8 p), p.drop 8, ?_⟩
  rw [Wire.u64, value, ← take_eq_encode long rfl, List.take_append_drop]

theorem split_qid (long : 13 ≤ p.length) : ∃ q rest, p = Wire.qid q ++ rest := by
  obtain ⟨type, p, rfl⟩ := split_u8 (by omega : 1 ≤ p.length)
  rw [List.length_append, Wire.u8_length] at long
  obtain ⟨version, p, rfl, _⟩ := split_u32 (by omega : 4 ≤ p.length)
  rw [List.length_append, Wire.u32_length] at long
  obtain ⟨path, p, rfl⟩ := split_u64 (by omega : 8 ≤ p.length)
  exact ⟨⟨type, version, path⟩, p, by simp [Wire.qid, List.append_assoc]⟩

theorem split_many {α : Type} (wire : α → Bytes) (size : Nat)
    (one : ∀ p : Bytes, size ≤ p.length → ∃ a rest, p = wire a ++ rest)
    (width : ∀ a, (wire a).length = size) (n : Nat) (p : Bytes) (long : size * n ≤ p.length) :
    ∃ (as : List α) (rest : Bytes), as.length = n ∧ p = as.flatMap wire ++ rest := by
  -- one value of the fixed size after the other
  induction n generalizing p with
  | zero => exact ⟨[], p, rfl, rfl⟩
  | succ n ih =>
    rw [Nat.mul_succ] at long
    obtain ⟨a, p, rfl⟩ := one p (by omega)
    rw [List.length_append, width] at long
    obtain ⟨as, p, count, rfl⟩ := ih p (by omega)
    exact ⟨a :: as, p, by rw [List.length_cons, count], by simp [List.append_assoc]⟩

theorem split_stat (long : 153 ≤ p.length) : ∃ s rest, p = Wire.stat s ++ rest := by
  obtain ⟨valid, p, rfl⟩ := split_u64 (by omega : 8 ≤ p.length)
  rw [List.length_append, Wire.u64_length] at long
  obtain ⟨qid, p, rfl⟩ := split_qid (by omega : 13 ≤ p.length)
  rw [List.length_append, Wire.qid_length] at long
  obtain ⟨mode, p, rfl, _⟩ := split_u32 (by omega : 4 ≤ p.length)
  rw [List.length_append, Wire.u32_length] at long
  obtain ⟨uid, p, rfl, _⟩ := split_u32 (by omega : 4 ≤ p.length)
  rw [List.length_append, Wire.u32_length] at long
  obtain ⟨gid, p, rfl, _⟩ := split_u32 (by omega : 4 ≤ p.length)
  rw [List.length_append, Wire.u32_length] at long
  -- the other fifteen fields are all eight bytes wide
  obtain ⟨vs, p, count, rfl⟩ := split_many Wire.u64 8 (fun _ long => split_u64 long)
    Wire.u64_length 15 p (by omega)
  match vs, count with
  | [nlink, rdev, size, blksize, blocks, atimeSec, atimeNsec, mtimeSec, mtimeNsec, ctimeSec,
      ctimeNsec, btimeSec, btimeNsec, gen, dataVersion], _ =>
    exact ⟨⟨valid, qid, mode, uid, gid, nlink, rdev, size, blksize, blocks, atimeSec, atimeNsec,
      mtimeSec, mtimeNsec, ctimeSec, ctimeNsec, btimeSec, btimeNsec, gen, dataVersion⟩, p,
      by simp [Wire.stat, List.append_assoc]⟩

end Split

/-! ### Complete payloads are the encodings -/

section Words

variable {tail : Bytes}

@[simp] private theorem word_u16 (v : UInt16) : word 2 (Wire.u16 v ++ tail) = v.toNat := by
  rw [word, List.take_left' (Wire.u16_length v)]
  exact LittleEndian.decode_encode_of_lt v.toNat_lt

@[simp] private theorem word_u32 (v : UInt32) : word 4 (Wire.u32 v ++ tail) = v.toNat := by
  rw [word, List.take_left' (Wire.u32_length v)]
  exact LittleEndian.decode_encode_of_lt v.toNat_lt

end Words

private theorem str_of_length {v : UInt16} {s : Bytes} (size : s.length = v.toNat) :
    Wire.str s = Wire.u16 v ++ s := by
  rw [Wire.str, size, UInt16.ofNat_toNat]

/-- Bytes behind a 16-bit length hold a string as soon as there are enough of them. -/
private theorem split_str {v : UInt16} {p : Bytes} (enough : v.toNat ≤ p.length) :
    ∃ s rest, s.length < 2 ^ 16 ∧ s.length = v.toNat ∧ Wire.u16 v ++ p = Wire.str s ++ rest := by
  have size : (p.take v.toNat).length = v.toNat := List.length_take_of_le enough
  refine ⟨p.take v.toNat, p.drop v.toNat, ?_, size, ?_⟩
  · rw [size]
    exact v.toNat_lt
  · rw [str_of_length size, List.append_assoc, List.take_append_drop]

private theorem drop_fixed (e : DirEntry) (tail : Bytes) :
    (Wire.dirEntry e ++ tail).drop 22 =
      Wire.u16 (UInt16.ofNat e.name.length) ++ (e.name ++ tail) := by
  have split : Wire.dirEntry e ++ tail =
      (Wire.qid e.qid ++ (Wire.u64 e.offset ++ Wire.u8 e.type)) ++
        (Wire.u16 (UInt16.ofNat e.name.length) ++ (e.name ++ tail)) := by
    simp [Wire.dirEntry, Wire.str, List.append_assoc]
  rw [split]
  exact List.drop_left' (by simp)

theorem wholeEntries_encode (entries : List DirEntry)
    (short : ∀ e ∈ entries, e.name.length < 2 ^ 16) :
    WholeEntries (entries.flatMap Wire.dirEntry) := by
  induction entries with
  | nil => exact WholeEntries.nil
  | cons e entries ih =>
    have tail := ih fun e' member => short e' (List.mem_cons_of_mem e member)
    have size : (UInt16.ofNat e.name.length).toNat = e.name.length := by
      have bound := short e List.mem_cons_self
      rw [UInt16.toNat_ofNat']
      omega
    rw [List.flatMap_cons]
    -- the length field of the first name
    have next : word 2 ((Wire.dirEntry e ++ entries.flatMap Wire.dirEntry).drop 22) =
        e.name.length := by
      rw [drop_fixed, word_u16, size]
    apply WholeEntries.entry
    · simp only [List.length_append, Wire.dirEntry_length]
      omega
    · rw [next, List.length_append, Wire.dirEntry_length]
      omega
    · rw [next, List.drop_left' (Wire.dirEntry_length e)]
      exact tail

theorem exists_entries {p : Bytes} (whole : WholeEntries p) :
    ∃ entries : List DirEntry,
      (∀ e ∈ entries, e.name.length < 2 ^ 16) ∧ p = entries.flatMap Wire.dirEntry := by
  induction whole with
  | nil => exact ⟨[], by simp, rfl⟩
  | @entry p fixed name rest ih =>
    obtain ⟨entries, short, tail⟩ := ih
    obtain ⟨qid, p, rfl⟩ := split_qid (by omega : 13 ≤ p.length)
    rw [List.length_append, Wire.qid_length] at fixed
    obtain ⟨offset, p, rfl⟩ := split_u64 (by omega : 8 ≤ p.length)
    rw [List.length_append, Wire.u64_length] at fixed
    obtain ⟨type, p, rfl⟩ := split_u8 (by omega : 1 ≤ p.length)
    rw [List.length_append, Wire.u8_length] at fixed
    obtain ⟨nlen, p, rfl, _⟩ := split_u16 (by omega : 2 ≤ p.length)
    -- the name length stands behind 22 bytes of fixed fields
    have front : (Wire.qid qid ++ (Wire.u64 offset ++ (Wire.u8 type ++ (Wire.u16 nlen ++ p)))).drop
        22 = Wire.u16 nlen ++ p := by
      rw [← List.append_assoc, ← List.append_assoc]
      exact List.drop_left' (by simp)
    rw [front, word_u16] at name tail
    simp only [List.length_append, Wire.qid_length, Wire.u64_length, Wire.u8_length,
      Wire.u16_length] at name
    obtain ⟨s, rest, bound, size, encoded⟩ := split_str (p := p) (v := nlen) (by omega)
    refine ⟨⟨qid, offset, type, s⟩ :: entries, ?_, ?_⟩
    · intro e member
      rcases List.mem_cons.mp member with rfl | old
      · exact bound
      · exact short e old
    · have whole : Wire.qid qid ++ (Wire.u64 offset ++ (Wire.u8 type ++ (Wire.u16 nlen ++ p))) =
          Wire.dirEntry ⟨qid, offset, type, s⟩ ++ rest := by
        simp [encoded, Wire.dirEntry, List.append_assoc]
      rw [whole, ← size, List.drop_left' (Wire.dirEntry_length ⟨qid, offset, type, s⟩)] at tail
      rw [whole, tail, List.flatMap_cons]

/-- A complete payload begins with the encoding of a response. -/
theorem exists_response {type : MessageType} (listed : type ∈ payloadTypes) {p : Bytes}
    (complete : Complete type p) :
    ∃ (r : Response) (rest : Bytes), r.type = type ∧ r.Fits ∧ p = r.payload ++ rest := by
  cases type with
  | rversion =>
    obtain ⟨fixed, announced⟩ := complete
    obtain ⟨maxSize, p, rfl, _⟩ := split_u32 (by omega : 4 ≤ p.length)
    rw [List.drop_left' (Wire.u32_length maxSize)] at announced
    rw [List.length_append, Wire.u32_length] at fixed announced
    obtain ⟨len, p, rfl, _⟩ := split_u16 (by omega : 2 ≤ p.length)
    rw [word_u16, List.length_append, Wire.u16_length] at announced
    obtain ⟨version, rest, bound, _, encoded⟩ := split_str (p := p) (v := len) (by omega)
    exact ⟨.rversion maxSize version, rest, rfl, bound,
      by simp [Response.payload, encoded, List.append_assoc]⟩
  | rattach =>
    obtain ⟨qid, rest, rfl⟩ := split_qid complete
    exact ⟨.rattach qid, rest, rfl, trivial, rfl⟩
  -- the counts and lengths that the payload announces are read off it first
  | rwalk =>
    obtain ⟨fixed, announced⟩ := complete
    obtain ⟨nwqid, p, rfl, _⟩ := split_u16 fixed
    rw [word_u16, List.length_append, Wire.u16_length] at announced
    obtain ⟨qids, rest, count, rfl⟩ := split_many Wire.qid 13 (fun _ long => split_qid long)
      Wire.qid_length nwqid.toNat p (by omega)
    refine ⟨.rwalk qids, rest, rfl, ?_, ?_⟩
    · change qids.length < 2 ^ 16
      rw [count]
      exact nwqid.toNat_lt
    · rw [Response.payload, count, UInt16.ofNat_toNat, List.append_assoc]
  | rlopen =>
    have long : 17 ≤ p.length := complete
    obtain ⟨qid, p, rfl⟩ := split_qid (by omega : 13 ≤ p.length)
    rw [List.length_append, Wire.qid_length] at long
    obtain ⟨iounit, rest, rfl, _⟩ := split_u32 (by omega : 4 ≤ p.length)
    exact ⟨.rlopen qid iounit, rest, rfl, trivial, by simp [Response.payload, List.append_assoc]⟩
  | rread =>
    obtain ⟨fixed, announced⟩ := complete
    obtain ⟨count, p, rfl, _⟩ := split_u32 fixed
    rw [word_u32, List.length_append, Wire.u32_length] at announced
    -- what is behind the announced bytes is left over
    have size : (p.take count.toNat).length = count.toNat := List.length_take_of_le (by omega)
    refine ⟨.rread (p.take count.toNat), p.drop count.toNat, rfl, ?_, ?_⟩
    · change (p.take count.toNat).length < 2 ^ 32
      rw [size]
      exact count.toNat_lt
    · rw [Response.payload, size, UInt32.ofNat_toNat, List.take_of_length_le (le_of_eq size),
        List.append_assoc, List.take_append_drop]
  | rgetattr =>
    obtain ⟨stat, rest, rfl⟩ := split_stat complete
    exact ⟨.rgetattr stat, rest, rfl, trivial, rfl⟩
  | rreaddir =>
    obtain ⟨fixed, announced, whole⟩ := complete
    obtain ⟨count, p, rfl, _⟩ := split_u32 fixed
    rw [List.drop_left' (Wire.u32_length count), word_u32] at whole
    rw [word_u32, List.length_append, Wire.u32_length] at announced
    -- the announced bytes are a listing that ends with an entry
    obtain ⟨entries, short, encoded⟩ := exists_entries whole
    have size : Response.dirSize entries = count.toNat := by
      rw [← Response.dirEntries_length, ← encoded]
      exact List.length_take_of_le (by omega)
    refine ⟨.rreaddir entries, p.drop count.toNat, rfl, ⟨?_, short⟩, ?_⟩
    · rw [size]
      exact count.toNat_lt
    · rw [Response.payload, size, UInt32.ofNat_toNat, ← encoded, List.append_assoc,
        List.take_append_drop]
  | rwrite =>
    obtain ⟨count, rest, rfl, _⟩ := split_u32 complete
    exact ⟨.rwrite count, rest, rfl, trivial, rfl⟩
  | rlcreate =>
    have long : 17 ≤ p.length := complete
    obtain ⟨qid, p, rfl⟩ := split_qid (by omega : 13 ≤ p.length)
    rw [List.length_append, Wire.qid_length] at long
    obtain ⟨iounit, rest, rfl, _⟩ := split_u32 (by omega : 4 ≤ p.length)
    exact ⟨.rlcreate qid iounit, rest, rfl, trivial,
      by simp [Response.payload, List.append_assoc]⟩
  | rmkdir =>
    obtain ⟨qid, rest, rfl⟩ := split_qid complete
    exact ⟨.rmkdir qid, rest, rfl, trivial, rfl⟩
  | _ => simp [payloadTypes] at listed

/-- The encoding of a response is a complete payload, whatever follows it. -/
theorem complete_of_response (r : Response) (fits : r.Fits) (rest : Bytes) :
    Complete r.type (r.payload ++ rest) := by
  cases r with
  -- where a payload announces a size, it has room for it
  | rversion maxSize version =>
    have size : (UInt16.ofNat version.length).toNat = version.length := by
      have bound : version.length < 2 ^ 16 := fits
      rw [UInt16.toNat_ofNat']
      omega
    have announced : word 2 ((Wire.u32 maxSize ++ Wire.str version ++ rest).drop 4) =
        version.length := by
      rw [List.append_assoc, List.drop_left' (Wire.u32_length maxSize), Wire.str,
        List.append_assoc, word_u16, size]
    simp only [Complete, Response.type, Response.payload, announced, List.length_append,
      Wire.u32_length, Wire.str_length]
    omega
  | rwalk qids =>
    have size : (UInt16.ofNat qids.length).toNat = qids.length := by
      have bound : qids.length < 2 ^ 16 := fits
      rw [UInt16.toNat_ofNat']
      omega
    have total : (qids.flatMap Wire.qid).length = 13 * qids.length := by
      simp [List.length_flatMap, Nat.mul_comm]
    simp only [Complete, Response.type, Response.payload, List.append_assoc, word_u16, size,
      List.length_append, Wire.u16_length, total]
    omega
  | rread data =>
    have size : (UInt32.ofNat data.length).toNat = data.length := by
      have bound : data.length < 2 ^ 32 := fits
      rw [UInt32.toNat_ofNat']
      omega
    simp only [Complete, Response.type, Response.payload, List.append_assoc, word_u32, size,
      List.length_append, Wire.u32_length, List.take_length]
    omega
  | rreaddir entries =>
    have size : (UInt32.ofNat (Response.dirSize entries)).toNat = Response.dirSize entries := by
      have bound := fits.1
      rw [UInt32.toNat_ofNat']
      omega
    have whole := wholeEntries_encode entries fits.2
    refine ⟨?_, ?_, ?_⟩
    · simp only [Response.payload, List.length_append, Wire.u32_length]
      omega
    · simp only [Response.payload, List.append_assoc, word_u32, size, List.length_append,
        Wire.u32_length, Response.dirEntries_length]
      omega
    · rw [Response.payload, List.append_assoc, List.drop_left' (Wire.u32_length _), word_u32, size,
        List.take_left' (Response.dirEntries_length entries)]
      exact whole
  -- the others have a fixed size
  | rlopen qid iounit =>
    simp only [Complete, Response.type, Response.payload, List.length_append, Wire.qid_length,
      Wire.u32_length]
    omega
  | rlcreate qid iounit =>
    simp only [Complete, Response.type, Response.payload, List.length_append, Wire.qid_length,
      Wire.u32_length]
    omega
  | _ => simp [Complete, Response.type, Response.payload]

/-! ### The parsers on complete and on truncated payloads -/

/-- The parsers in the list look at nothing but the type byte to decide. -/
theorem parseResponse_accepts {type : MessageType} (listed : type ∈ payloadTypes)
    {m : NinePMessage} (kind : m.getType = type.code) :
    ∃ r m', parseResponse type m = (some r, m') ∧ r.type = type := by
  have accepts {α : Type} (decoder : Decoder α) (f : α → Response)
      (typed : ∀ a, (f a).type = type) :
      ∃ r m', (Option.map f <$> parsePayload type decoder) m = (some r, m') ∧ r.type = type := by
    let result := decoder { m with readOffset := headerSize }
    refine ⟨f result.1, result.2, ?_, typed _⟩
    change (Option.map f (parsePayload type decoder m).1, (parsePayload type decoder m).2) = _
    rw [parsePayload, if_neg (by simp [kind])]
    rfl
  cases type with
  | rversion => exact accepts _ _ fun _ => rfl
  | rattach => exact accepts _ _ fun _ => rfl
  | rwalk => exact accepts _ _ fun _ => rfl
  | rlopen => exact accepts _ _ fun _ => rfl
  | rread => exact accepts _ _ fun _ => rfl
  | rgetattr => exact accepts _ _ fun _ => rfl
  | rreaddir => exact accepts _ _ fun _ => rfl
  | rwrite => exact accepts _ _ fun _ => rfl
  | rlcreate => exact accepts _ _ fun _ => rfl
  | rmkdir => exact accepts _ _ fun _ => rfl
  | _ => simp [payloadTypes] at listed

private theorem header_long {type : MessageType} {response : Bytes}
    (listed : type ∈ payloadTypes) (kind : (ofData response).getType = type.code) :
    7 ≤ response.length := by
  by_contra short
  have early : (ofData response).data.length < headerSize.toNat := Nat.lt_of_not_le short
  rw [getType, if_pos early, MessageType.code_inj] at kind
  subst kind
  simp [payloadTypes] at listed

theorem parsesExactly_iff (type : MessageType) (listed : type ∈ payloadTypes) (response : Bytes)
    (received : response.length < 2 ^ 32) :
    ParsesExactly type response ↔
      (ofData response).getType ≠ type.code ∨ Complete type (response.drop 7) := by
  constructor
  · intro exact'
    by_cases kind : (ofData response).getType = type.code
    · right
      -- the parser accepts, so what it delivers has to be encoded there
      obtain ⟨r, m, run, rfl⟩ := parseResponse_accepts listed kind
      obtain ⟨_, fits, rest, encoded⟩ := exact' r m run
      rw [encoded]
      exact complete_of_response r fits rest
    · exact Or.inl kind
  · rintro (other | complete) r m run
    · have rejected := parseResponse_other (m := ofData response) other
      rw [run] at rejected
      cases rejected
    · by_cases kind : (ofData response).getType = type.code
      · obtain ⟨r', rest, rfl, fits, encoded⟩ := exists_response listed complete
        have proper : r'.type ≠ .rlerror := by
          intro error
          rw [error] at listed
          simp [payloadTypes] at listed
        obtain ⟨m', run', ready, _⟩ := parseResponse_prefix r' fits proper kind rfl
          ⟨received, header_long listed kind, rfl⟩ encoded
        rw [run] at run'
        cases run'
        exact ⟨ready.2.2, fits, rest, encoded⟩
      · have rejected := parseResponse_other (m := ofData response) kind
        rw [run] at rejected
        cases rejected

/-- An Rread of four bytes, cut off behind its count. -/
def truncatedRread : Bytes := [15, 0, 0, 0, 117, 1, 0, 4, 0, 0, 0]

theorem parsesExactly_iff_truncatedRread :
    ParsesExactly .rread truncatedRread ↔
      (ofData truncatedRread).getType ≠ MessageType.rread.code ∨
        Complete .rread (truncatedRread.drop 7) :=
  parsesExactly_iff .rread (by decide) truncatedRread (by decide)

/-- `ParseRread` takes the truncated response for one without data. -/
theorem truncatedRread_accepted : ¬ ParsesExactly .rread truncatedRread := by
  intro exactly
  obtain ⟨_, _, rest, encoded⟩ := exactly (.rread []) ⟨truncatedRread, 11, false⟩ rfl
  have first : some (4 : UInt8) = some 0 := congrArg List.head? encoded
  exact absurd first (by decide)

end Virtio9p
