import Virtio9p.Protocol.Response

/-!
# Response parsers

What the parsers take off a response whose payload is complete.
-/
namespace Virtio9p

open Cursor NinePMessage

/-! ### What each payload decoder consumes -/

theorem consumes_rversionFields (maxSize : UInt32) (version : Bytes)
    (short : version.length < 2 ^ 16) :
    Consumes messageView rversionFields (Wire.u32 maxSize ++ Wire.str version)
      (maxSize, version) := by
  refine Consumes.bind (consumes_getU32 maxSize) ?_
  exact Consumes.last (consumes_getString version short) rfl

theorem consumes_rwalkFields (qids : List Qid) (few : qids.length < 2 ^ 16) (found : List Qid) :
    Consumes messageView (rwalkFields found)
      (Wire.u16 (UInt16.ofNat qids.length) ++ qids.flatMap Wire.qid) (found ++ qids) := by
  have count : (UInt16.ofNat qids.length).toNat = qids.length := by
    rw [UInt16.toNat_ofNat']
    omega
  refine Consumes.bind (consumes_getU16 _) ?_
  rw [count]
  exact Consumes.collect Wire.qid qids (fun q _ => consumes_getQid q) found

theorem consumes_qidAndIounit (qid : Qid) (iounit : UInt32) :
    Consumes messageView qidAndIounit (Wire.qid qid ++ Wire.u32 iounit) (qid, iounit) := by
  refine Consumes.bind (consumes_getQid qid) ?_
  exact Consumes.last (consumes_getU32 iounit) rfl

theorem consumes_rreadFields (data : Bytes) (count : UInt32) (size : data.length = count.toNat) :
    Consumes messageView rreadFields (Wire.u32 count ++ data) data :=
  Consumes.bind (consumes_getU32 count) (consumes_getBytes data count size)

theorem consumes_rgetattrFields (s : NinePStat) :
    Consumes messageView rgetattrFields (Wire.stat s) s := by
  refine Consumes.bind (consumes_getU64 s.valid) ?_
  refine Consumes.bind (consumes_getQid s.qid) ?_
  refine Consumes.bind (consumes_getU32 s.mode) ?_
  refine Consumes.bind (consumes_getU32 s.uid) ?_
  refine Consumes.bind (consumes_getU32 s.gid) ?_
  refine Consumes.bind (consumes_getU64 s.nlink) ?_
  refine Consumes.bind (consumes_getU64 s.rdev) ?_
  refine Consumes.bind (consumes_getU64 s.size) ?_
  refine Consumes.bind (consumes_getU64 s.blksize) ?_
  refine Consumes.bind (consumes_getU64 s.blocks) ?_
  refine Consumes.bind (consumes_getU64 s.atimeSec) ?_
  refine Consumes.bind (consumes_getU64 s.atimeNsec) ?_
  refine Consumes.bind (consumes_getU64 s.mtimeSec) ?_
  refine Consumes.bind (consumes_getU64 s.mtimeNsec) ?_
  refine Consumes.bind (consumes_getU64 s.ctimeSec) ?_
  refine Consumes.bind (consumes_getU64 s.ctimeNsec) ?_
  refine Consumes.bind (consumes_getU64 s.btimeSec) ?_
  refine Consumes.bind (consumes_getU64 s.btimeNsec) ?_
  refine Consumes.bind (consumes_getU64 s.gen) ?_
  exact Consumes.last (consumes_getU64 s.dataVersion) rfl

/-! ### The readdir loop -/

theorem consumes_readdirLoop (count : UInt32) (entries : List DirEntry)
    (short : ∀ e ∈ entries, e.name.length < 2 ^ 16) (fuel : Nat) (rounds : entries.length ≤ fuel)
    (bytesConsumed : UInt32)
    (inside : bytesConsumed.toNat + Response.dirSize entries = count.toNat)
    (found : List DirEntry) :
    Consumes messageView (readdirLoop count fuel bytesConsumed found)
      (entries.flatMap Wire.dirEntry) (some (found ++ entries)) := by
  induction entries generalizing fuel bytesConsumed found with
  | nil =>
    have done : ¬ bytesConsumed < count := by
      rw [UInt32.lt_iff_toNat_lt]
      simp only [Response.dirSize, List.map_nil, List.sum_nil] at inside
      omega
    unfold readdirLoop
    rw [if_neg done]
    simpa using Consumes.pure (V := messageView) (some found)
  | cons entry entries ih =>
    have entryShort : entry.name.length < 2 ^ 16 := short entry List.mem_cons_self
    have total : bytesConsumed.toNat + (24 + entry.name.length) + Response.dirSize entries =
        count.toNat := by
      simp only [Response.dirSize, List.map_cons, List.sum_cons] at inside ⊢
      omega
    have more : bytesConsumed < count := by
      rw [UInt32.lt_iff_toNat_lt]
      omega
    have bound := count.toNat_lt
    -- the counter recomputes the size of the entry it has just read
    have next : (bytesConsumed + (13 + 8 + 1 + 2 + UInt32.ofNat entry.name.length)).toNat =
        bytesConsumed.toNat + (24 + entry.name.length) := by
      have fixed : (13 + 8 + 1 + 2 : UInt32).toNat = 24 := rfl
      rw [UInt32.toNat_add, UInt32.toNat_add, fixed, UInt32.toNat_ofNat']
      omega
    obtain ⟨fuel, rfl⟩ : ∃ n, fuel = n + 1 := ⟨fuel - 1, by simp at rounds; omega⟩
    unfold readdirLoop
    rw [if_pos more]
    refine Consumes.bind (consumes_getDirEntry entry entryShort) ?_
    have tail := ih (fun e member => short e (List.mem_cons_of_mem entry member)) fuel
      (by simpa using rounds) (bytesConsumed + (13 + 8 + 1 + 2 + UInt32.ofNat entry.name.length))
      (by rw [next]; exact total) (found ++ [entry])
    rwa [List.append_assoc] at tail

theorem consumes_readdirWithin (entries : List DirEntry)
    (short : ∀ e ∈ entries, e.name.length < 2 ^ 16) (count : UInt32)
    (size : Response.dirSize entries = count.toNat) (rounds : Nat)
    (enough : entries.length ≤ rounds) (found : List DirEntry) :
    Consumes messageView (readdirWithin rounds count found) (entries.flatMap Wire.dirEntry)
      (found ++ entries) := by
  intro m tail ready rest
  obtain ⟨m', run, after⟩ := consumes_readdirLoop count entries short rounds enough 0
    (by simpa using size) found m tail ready rest
  exact ⟨m', by simp only [readdirWithin, run], after⟩

private theorem length_le_dirSize (entries : List DirEntry) :
    entries.length ≤ Response.dirSize entries := by
  induction entries with
  | nil => simp
  | cons e es ih =>
    simp only [Response.dirSize, List.map_cons, List.sum_cons, List.length_cons] at ih ⊢
    omega

theorem consumes_getDirEntries (entries : List DirEntry)
    (short : ∀ e ∈ entries, e.name.length < 2 ^ 16) (count : UInt32)
    (size : Response.dirSize entries = count.toNat) (found : List DirEntry) :
    Consumes messageView (getDirEntries count found) (entries.flatMap Wire.dirEntry)
      (found ++ entries) := by
  intro m tail ready rest
  -- every entry takes some of the count, so the loop has rounds enough
  have enough : entries.length ≤ readdirRounds m := by
    have few := length_le_dirSize entries
    have bound := count.toNat_lt
    unfold readdirRounds
    omega
  exact consumes_readdirWithin entries short count size _ enough found m tail ready rest

theorem consumes_rreaddirFields (entries : List DirEntry)
    (short : ∀ e ∈ entries, e.name.length < 2 ^ 16) (count : UInt32)
    (size : Response.dirSize entries = count.toNat) (found : List DirEntry) :
    Consumes messageView (rreaddirFields found)
      (Wire.u32 count ++ entries.flatMap Wire.dirEntry) (found ++ entries) :=
  Consumes.bind (consumes_getU32 count) (consumes_getDirEntries entries short count size found)

/-! ### The parsers under one name -/

/-- The response parser of a message type, on empty output lists. -/
def parseResponse : MessageType → Decoder (Option Response)
  | .rlerror => fun m => ((isRlerror m).map .rlerror, m)
  | .rversion => Option.map (fun fields => .rversion fields.1 fields.2) <$> parseRversion
  | .rattach => Option.map .rattach <$> parseRattach
  | .rwalk => Option.map .rwalk <$> parseRwalk []
  | .rlopen => Option.map (fun fields => .rlopen fields.1 fields.2) <$> parseRlopen
  | .rread => Option.map .rread <$> parseRread
  | .rclunk => Option.map (fun _ => .rclunk) <$> parseRclunk
  | .rgetattr => Option.map .rgetattr <$> parseRgetattr
  | .rreaddir => Option.map .rreaddir <$> parseRreaddir []
  | .rwrite => Option.map .rwrite <$> parseRwrite
  | .rlcreate => Option.map (fun fields => .rlcreate fields.1 fields.2) <$> parseRlcreate
  | .rmkdir => Option.map .rmkdir <$> parseRmkdir
  | .runlinkat => Option.map (fun _ => .runlinkat) <$> parseRunlinkat
  | .rrenameat => Option.map (fun _ => .rrenameat) <$> parseRrenameat
  -- there is no parser for the requests
  | _ => pure none

/-! ### Complete payloads -/

section Complete

variable {m : NinePMessage} {type : MessageType} {tail : Bytes}

private theorem map_parsePayload {α β : Type} {decoder : Decoder α} {payload : Bytes} {a : α}
    (consumes : Consumes messageView decoder payload a) (f : α → β)
    (kind : m.getType = type.code) (ready : messageView.Ready { m with readOffset := headerSize })
    (unread : m.data.drop 7 = payload ++ tail) :
    ∃ m', (Option.map f <$> parsePayload type decoder) m = (some (f a), m') ∧
      messageView.Ready m' ∧ messageView.rest m' = tail ∧ m'.data = m.data := by
  obtain ⟨m', run, after⟩ := consumes { m with readOffset := headerSize } tail ready unread
  refine ⟨m', ?_, after⟩
  change (Option.map f (parsePayload type decoder m).1, (parsePayload type decoder m).2) = _
  rw [parsePayload, if_neg (by simp [kind])]
  change (Option.map f (some (decoder { m with readOffset := headerSize }).1),
    (decoder { m with readOffset := headerSize }).2) = _
  rw [run]
  rfl

private theorem map_parseHeader {β : Type} (b : β) (kind : m.getType = type.code)
    (ready : messageView.Ready { m with readOffset := headerSize })
    (fresh : m.readOffset = headerSize) (unread : m.data.drop 7 = tail) :
    ∃ m', (Option.map (fun _ => b) <$> parseHeader type) m = (some b, m') ∧
      messageView.Ready m' ∧ messageView.rest m' = tail ∧ m'.data = m.data := by
  have same : { m with readOffset := headerSize } = m := by
    rw [← fresh]
  rw [same] at ready
  refine ⟨m, ?_, ready, ?_, rfl⟩
  · change (Option.map (fun _ => b) (parseHeader type m).1, m) = _
    rw [parseHeader, if_pos kind]
    rfl
  · change m.data.drop m.readOffset.toNat = tail
    rw [fresh]
    exact unread

/-- On a message that starts with the encoding of `r`, the parser for its type gives `r`
and stops behind the encoding. `IsRlerror` does not move the offset of its argument. -/
theorem parseResponse_prefix (r : Response) (fits : r.Fits) (proper : r.type ≠ .rlerror)
    (kind : m.getType = r.type.code) (fresh : m.readOffset = headerSize)
    (ready : messageView.Ready m) (unread : m.data.drop 7 = r.payload ++ tail) :
    ∃ m', parseResponse r.type m = (some r, m') ∧
      messageView.Ready m' ∧ messageView.rest m' = tail ∧ m'.data = m.data := by
  have start : messageView.Ready { m with readOffset := headerSize } := by
    rw [← fresh]
    exact ready
  cases r with
  | rlerror ecode => exact absurd rfl proper
  | rversion maxSize version =>
    exact map_parsePayload (consumes_rversionFields maxSize version fits) _ kind start unread
  | rattach qid => exact map_parsePayload (consumes_getQid qid) _ kind start unread
  | rwalk qids =>
    exact map_parsePayload (consumes_rwalkFields qids fits []) _ kind start unread
  | rlopen qid iounit =>
    exact map_parsePayload (consumes_qidAndIounit qid iounit) _ kind start unread
  | rread data =>
    have count : data.length = (UInt32.ofNat data.length).toNat := by
      have bound : data.length < 2 ^ 32 := fits
      rw [UInt32.toNat_ofNat']
      omega
    rw [Response.payload, ← count, List.take_length] at unread
    exact map_parsePayload (consumes_rreadFields data _ count) _ kind start unread
  | rclunk => exact map_parseHeader _ kind start fresh unread
  | rgetattr stat => exact map_parsePayload (consumes_rgetattrFields stat) _ kind start unread
  | rreaddir entries =>
    have count : Response.dirSize entries = (UInt32.ofNat (Response.dirSize entries)).toNat := by
      have bound := fits.1
      rw [UInt32.toNat_ofNat']
      omega
    exact map_parsePayload (consumes_rreaddirFields entries fits.2 _ count []) _ kind start unread
  | rwrite count => exact map_parsePayload (consumes_getU32 count) _ kind start unread
  | rlcreate qid iounit =>
    exact map_parsePayload (consumes_qidAndIounit qid iounit) _ kind start unread
  | rmkdir qid => exact map_parsePayload (consumes_getQid qid) _ kind start unread
  | runlinkat => exact map_parseHeader _ kind start fresh unread
  | rrenameat => exact map_parseHeader _ kind start fresh unread

theorem isRlerror_prefix {ecode : UInt32} (kind : m.getType = MessageType.rlerror.code)
    (long : 7 ≤ m.data.length) (small : m.data.length < 2 ^ 32)
    (unread : m.data.drop 7 = Wire.u32 ecode ++ tail) : isRlerror m = some ecode := by
  obtain ⟨m', run, _⟩ := consumes_getU32 ecode (ofData m.data) tail ⟨small, long, rfl⟩ unread
  rw [isRlerror, if_neg (by simp [kind]), run]

/-- A parser returns false on every other type byte. -/
theorem parseResponse_other (bad : m.getType ≠ type.code) : (parseResponse type m).1 = none := by
  have rejects {α β : Type} (decoder : Decoder α) (f : α → β) :
      ((Option.map f <$> parsePayload type decoder) m).1 = none := by
    change Option.map f (parsePayload type decoder m).1 = none
    rw [parsePayload, if_pos bad]
    rfl
  have rejectsHeader {β : Type} (b : β) :
      ((Option.map (fun _ => b) <$> parseHeader type) m).1 = none := by
    change Option.map (fun _ => b) (parseHeader type m).1 = none
    rw [parseHeader, if_neg bad]
    rfl
  cases type with
  | rlerror =>
    change (isRlerror m).map Response.rlerror = none
    rw [isRlerror, if_pos bad]
    rfl
  | rversion => exact rejects _ _
  | rattach => exact rejects _ _
  | rwalk => exact rejects _ _
  | rlopen => exact rejects _ _
  | rread => exact rejects _ _
  | rgetattr => exact rejects _ _
  | rreaddir => exact rejects _ _
  | rwrite => exact rejects _ _
  | rlcreate => exact rejects _ _
  | rmkdir => exact rejects _ _
  | rclunk => exact rejectsHeader _
  | runlinkat => exact rejectsHeader _
  | rrenameat => exact rejectsHeader _
  | _ => rfl

end Complete

/-! ### What the session makes of a response -/

section Encoded

variable (r : Response) (tag : UInt16)

theorem ofData_encode_length : (ofData (r.encode tag).data).data.length = 7 + r.payload.length :=
  length_of_header (m := ofData (r.encode tag).data) (r.encode_data tag)

theorem parsePayload_encode {α : Type} {decoder : Decoder α} {a : α}
    (consumes : Consumes messageView decoder r.payload a) (small : 7 + r.payload.length < 2 ^ 32) :
    parsePayload r.type decoder (ofData (r.encode tag).data) =
      (some a, { ofData (r.encode tag).data with
        readOffset := UInt32.ofNat (7 + r.payload.length) }) := by
  have total := ofData_encode_length r tag
  have whole := decoder_whole (m := ofData (r.encode tag).data) consumes
    (by rw [total]; exact Nat.le_add_right 7 _) (drop_header (r.encode_data tag))
    (by rw [total]; exact small) rfl
  rw [total] at whole
  have kind := getType_of_header (m := ofData (r.encode tag).data) (r.encode_data tag)
  rw [parsePayload, if_neg (not_not_intro kind)]
  change ((some (decoder (ofData (r.encode tag).data)).1,
    (decoder (ofData (r.encode tag).data)).2) :
    Option α × NinePMessage) = _
  rw [show decoder (ofData (r.encode tag).data) = _ from whole]

theorem isRlerror_encode (proper : r.type ≠ .rlerror) :
    isRlerror (ofData (r.encode tag).data) = none := by
  have type := getType_of_header (m := ofData (r.encode tag).data) (r.encode_data tag)
  rw [isRlerror, if_pos]
  rw [type]
  exact fun same => proper (MessageType.code_injective same)

theorem isRlerror_encode_rlerror (ecode : UInt32) :
    isRlerror (ofData ((Response.rlerror ecode).encode tag).data) = some ecode := by
  have framed := (Response.rlerror ecode).encode_data tag
  have total := ofData_encode_length (.rlerror ecode) tag
  simp only [Response.payload, Wire.u32_length] at total
  have unread : (ofData ((Response.rlerror ecode).encode tag).data).data.drop 7 =
      Wire.u32 ecode ++ [] := by
    rw [List.append_nil]
    exact drop_header framed
  exact isRlerror_prefix (getType_of_header framed) (by omega) (by omega) unread

end Encoded

end Virtio9p
