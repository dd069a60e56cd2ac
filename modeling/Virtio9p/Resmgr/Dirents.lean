import Virtio9p.Foundation.LittleEndian
import Virtio9p.Resmgr.Handlers

/-!
# Directory records

The bytes of a `struct dirent` as `IoRead` builds it, a client that walks a buffer of such
records by `d_reclen`, and the records that the packing loop puts into a reply.
-/
namespace Virtio9p

open LittleEndian

/-! ### One record -/

/-- `entry_buf`: the fields and the name in a zeroed buffer of `d_reclen` bytes. -/
def Dirent.bytes (d : Dirent) : Bytes :=
  let fields := encode 8 d.ino.toNat ++ (encode 8 d.offset.toNat ++
    (encode 2 d.reclen.toUInt16.toNat ++ (encode 2 d.namelen.toUInt16.toNat ++ d.name)))
  fields ++ List.replicate (d.reclen.toUInt16.toNat - fields.length) 0

/-- A record as a client reads it; the name ends at its NUL. -/
def Dirent.read (buf : Bytes) : Dirent where
  ino := UInt64.ofNat (decode (buf.take 8))
  offset := UInt64.ofNat (decode ((buf.drop 8).take 8))
  reclen := (UInt16.ofNat (decode ((buf.drop 16).take 2))).toInt16
  namelen := (UInt16.ofNat (decode ((buf.drop 18).take 2))).toInt16
  name := (buf.drop 20).takeWhile fun b => b ≠ 0

/-- Walk a buffer by `d_reclen`; `none` if a record is not whole, not a multiple of 8 bytes
long or has no NUL behind its name. -/
def walkDirents : Nat → Bytes → Option (List Dirent)
  | _, [] => some []
  | 0, _ :: _ => none
  | fuel + 1, buf =>
    let d := Dirent.read buf
    let reclen := d.reclen.toUInt16.toNat
    if buf.length < reclen ∨ reclen % 8 ≠ 0 ∨ reclen ≤ 20 + d.name.length then none
    else (walkDirents fuel (buf.drop reclen)).map (d :: ·)

/-- The record that `IoRead` builds for an entry. -/
def direntOf (q : Qnx) (e : DirEntry) : Dirent :=
  ⟨e.qid.path, e.offset, Int16.ofNat (direntReclen q e.name.length), Int16.ofNat e.name.length,
    e.name⟩

/-- A name of 1 to 255 bytes without NUL. -/
def ProperName (name : Bytes) : Prop := 1 ≤ name.length ∧ name.length ≤ 255 ∧ 0 ∉ name

instance (name : Bytes) : Decidable (ProperName name) :=
  inferInstanceAs (Decidable (_ ∧ _ ∧ _))

section Record

variable {e : DirEntry} (proper : ProperName e.name)

include proper

theorem direntOf_reclen : (direntOf Qnx.headers e).reclen.toUInt16.toNat =
    direntReclen Qnx.headers e.name.length := by
  obtain ⟨-, short, -⟩ := proper
  -- `d_reclen` is a signed 16-bit number
  have small : direntReclen Qnx.headers e.name.length < 2 ^ 16 := by
    simp only [direntReclen, Qnx.headers]
    omega
  change (Int16.ofNat _).toUInt16.toNat = _
  rw [← UInt16.toInt16_ofNat', UInt16.toUInt16_toInt16, UInt16.toNat_ofNat', Nat.mod_eq_of_lt small]

theorem direntOf_bytes_length : (direntOf Qnx.headers e).bytes.length =
    direntReclen Qnx.headers e.name.length := by
  simp only [Dirent.bytes, List.length_append, encode_length, List.length_replicate,
    direntOf_reclen proper]
  simp only [direntOf, direntReclen, Qnx.headers]
  omega

end Record

theorem takeWhile_name {name : Bytes} (noNul : 0 ∉ name) (rest : Bytes) :
    (name ++ 0 :: rest).takeWhile (fun b => b ≠ 0) = name := by
  rw [List.takeWhile_append_of_pos, List.takeWhile_cons_of_neg (by decide), List.append_nil]
  intro b member
  exact decide_eq_true fun zero => noNul (zero ▸ member)

/-- A record with a NUL behind its name is read back. -/
theorem read_bytes {d : Dirent} (room : 20 + d.name.length < d.reclen.toUInt16.toNat)
    (noNul : 0 ∉ d.name) (tail : Bytes) : Dirent.read (d.bytes ++ tail) = d := by
  obtain ⟨ino, offset, reclen, namelen, name⟩ := d
  -- the record is padded with one zero byte at least
  obtain ⟨pad, zeros⟩ : ∃ pad, reclen.toUInt16.toNat - (20 + name.length) = pad + 1 :=
    ⟨_, (Nat.succ_pred_eq_of_pos (Nat.sub_pos_of_lt room)).symm⟩
  have whole : (Dirent.bytes ⟨ino, offset, reclen, namelen, name⟩) ++ tail =
      encode 8 ino.toNat ++ (encode 8 offset.toNat ++ (encode 2 reclen.toUInt16.toNat ++
        (encode 2 namelen.toUInt16.toNat ++ (name ++ 0 :: (List.replicate pad 0 ++ tail))))) := by
    have fields : 8 + (8 + (2 + (2 + name.length))) = 20 + name.length := by omega
    simp only [Dirent.bytes, List.length_append, encode_length, fields, zeros,
      List.replicate_succ, List.append_assoc, List.cons_append]
  rw [whole]
  have first {n : Nat} {xs : Bytes} (size : xs.length = n) (ys : Bytes) :
      (xs ++ ys).take n = xs := List.take_left' size
  simp only [Dirent.read, Dirent.mk.injEq]
  refine ⟨?_, ?_, ?_, ?_, ?_⟩
  · rw [first (encode_length 8 _), decode_encode_of_lt (UInt64.toNat_lt ino), UInt64.ofNat_toNat]
  · rw [List.drop_left' (encode_length 8 _), first (encode_length 8 _),
      decode_encode_of_lt (UInt64.toNat_lt offset), UInt64.ofNat_toNat]
  · rw [← List.append_assoc, List.drop_left' (by simp), first (encode_length 2 _),
      decode_encode_of_lt (UInt16.toNat_lt _), UInt16.ofNat_toNat, Int16.toInt16_toUInt16]
  · rw [← List.append_assoc, ← List.append_assoc, List.drop_left' (by simp),
      first (encode_length 2 _), decode_encode_of_lt (UInt16.toNat_lt _), UInt16.ofNat_toNat,
      Int16.toInt16_toUInt16]
  · rw [← List.append_assoc, ← List.append_assoc, ← List.append_assoc, List.drop_left' (by simp),
      takeWhile_name noNul]

/-! ### A buffer of records -/

/-- The records of some entries, one behind the other. -/
def direntBytes (entries : List DirEntry) : Bytes :=
  entries.flatMap fun e => (direntOf Qnx.headers e).bytes

/-- What the records of some entries take up. -/
def packedSize (q : Qnx) (entries : List DirEntry) : Nat :=
  (entries.map fun e => direntReclen q e.name.length).sum

@[simp] theorem packedSize_cons (q : Qnx) (e : DirEntry) (entries : List DirEntry) :
    packedSize q (e :: entries) = direntReclen q e.name.length + packedSize q entries := by
  simp [packedSize]

theorem length_le_packedSize (q : Qnx) (entries : List DirEntry) :
    entries.length ≤ packedSize q entries := by
  induction entries with
  | nil => exact Nat.zero_le _
  | cons e entries ih =>
    have positive : 1 ≤ direntReclen q e.name.length := by
      unfold direntReclen
      omega
    rw [List.length_cons, packedSize_cons]
    omega

theorem direntBytes_length {entries : List DirEntry}
    (proper : ∀ e ∈ entries, ProperName e.name) :
    (direntBytes entries).length = packedSize Qnx.headers entries := by
  induction entries with
  | nil => rfl
  | cons e entries ih =>
    have rest := ih fun e' member => proper e' (List.mem_cons_of_mem e member)
    unfold direntBytes at rest ⊢
    rw [List.flatMap_cons, List.length_append, rest,
      direntOf_bytes_length (proper e List.mem_cons_self), packedSize_cons]

theorem walkDirents_succ (fuel : Nat) {buf : Bytes} (nonempty : buf ≠ []) :
    walkDirents (fuel + 1) buf =
      if buf.length < (Dirent.read buf).reclen.toUInt16.toNat ∨
          (Dirent.read buf).reclen.toUInt16.toNat % 8 ≠ 0 ∨
          (Dirent.read buf).reclen.toUInt16.toNat ≤ 20 + (Dirent.read buf).name.length then none
      else (walkDirents fuel (buf.drop (Dirent.read buf).reclen.toUInt16.toNat)).map
        (Dirent.read buf :: ·) := by
  cases buf with
  | nil => exact absurd rfl nonempty
  | cons b buf => rfl

/-- A client that walks the buffer gets the records back. -/
theorem walk_direntBytes {entries : List DirEntry} (proper : ∀ e ∈ entries, ProperName e.name)
    {fuel : Nat} (enough : entries.length ≤ fuel) :
    walkDirents fuel (direntBytes entries) = some (entries.map (direntOf Qnx.headers)) := by
  induction entries generalizing fuel with
  | nil =>
    cases fuel <;> rfl
  | cons e entries ih =>
    obtain ⟨fuel, rfl⟩ := Nat.exists_eq_add_of_le' enough
    have named := proper e List.mem_cons_self
    have reclen := direntOf_reclen named
    have size := direntOf_bytes_length named
    have aligned : direntReclen Qnx.headers e.name.length % 8 = 0 := Nat.mul_mod_left _ 8
    -- the padding ends the name
    have room : 20 + e.name.length < direntReclen Qnx.headers e.name.length := by
      simp only [direntReclen, Qnx.headers]
      omega
    have back := read_bytes (d := direntOf Qnx.headers e) (by rw [reclen]; exact room) named.2.2
      (direntBytes entries)
    have rest := ih (fun e' member => proper e' (List.mem_cons_of_mem e member))
      (Nat.le_add_left entries.length fuel)
    have nonempty : (direntOf Qnx.headers e).bytes ++ direntBytes entries ≠ [] := by
      apply List.ne_nil_of_length_pos
      rw [List.length_append, size]
      omega
    change walkDirents (fuel + entries.length + 1)
      ((direntOf Qnx.headers e).bytes ++ direntBytes entries) = _
    rw [walkDirents_succ _ nonempty, back, reclen, if_neg, List.drop_left' size, rest]
    · rfl
    · rw [List.length_append, size]
      simp only [not_or, not_lt, not_not]
      exact ⟨Nat.le_add_right _ _, aligned, Nat.not_le_of_lt room⟩

/-! ### The packing loop -/

/-- The cookie to go on with after some entries. -/
def lastCookie (cookie : UInt64) : List DirEntry → UInt64
  | [] => cookie
  | e :: entries => lastCookie e.offset entries

theorem lastCookie_append (cookie : UInt64) (entries : List DirEntry) (e : DirEntry) :
    lastCookie cookie (entries ++ [e]) = e.offset := by
  induction entries generalizing cookie with
  | nil => rfl
  | cons e' entries ih => exact ih e'.offset

/-- The loop packs the entries up to the first one whose record does not fit. -/
theorem packDirents_spec (q : Qnx) {nbytes : UInt32} (entries : List DirEntry)
    (buf : List Dirent) {size : Nat} (offset : UInt64) (within : size ≤ nbytes.toNat) :
    ∃ kept dropped, entries = kept ++ dropped ∧
      packDirents q nbytes entries buf size offset = (buf ++ kept.map (direntOf q),
        size + packedSize q kept, lastCookie offset kept) ∧
      size + packedSize q kept ≤ nbytes.toNat ∧
      (kept = [] → ∀ e ∈ entries.head?, nbytes.toNat < size + direntReclen q e.name.length) := by
  induction entries generalizing buf size offset with
  | nil =>
    refine ⟨[], [], rfl, ?_, within, ?_⟩
    · simp [packDirents, packedSize, lastCookie]
    · rintro - e ⟨⟩
  | cons e entries ih =>
    rw [packDirents]
    by_cases large : size + direntReclen q e.name.length > nbytes.toNat
    · -- the loop breaks and drops this entry and those behind it
      rw [if_pos large]
      refine ⟨[], e :: entries, rfl, ?_, within, ?_⟩
      · simp [packedSize, lastCookie]
      · rintro - e' ⟨⟩
        exact large
    · rw [if_neg large]
      obtain ⟨kept, dropped, rfl, packed, fits, -⟩ :=
        ih (buf ++ [direntOf q e]) e.offset (Nat.le_of_not_lt large)
      refine ⟨e :: kept, dropped, rfl, packed.trans ?_, ?_, ?_⟩
      · simp [lastCookie, Nat.add_assoc]
      · rwa [packedSize_cons, ← Nat.add_assoc]
      · rintro ⟨⟩

end Virtio9p
