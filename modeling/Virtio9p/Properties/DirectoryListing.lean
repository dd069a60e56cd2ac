import Virtio9p.Foundation.Machine
import Virtio9p.Server.DirectoryServer

/-!
# Listing a directory

The server fills a page in the 9P encoding, `IoRead` keeps what fits into the client's buffer
as QNX records, drops the rest and goes on behind the last record kept. The client sees every
entry once, wherever the two limits cut.
-/
namespace Virtio9p

open Paging

/-- A reply gives a client the records of a page: nothing for an empty page, else a buffer of
no more than `nbytes` that it can walk. -/
def Reply.Shows (nbytes : UInt32) (page : List Dirent) : Reply → Prop
  | .nbytes n => n = 0 ∧ page = []
  | .dirents records =>
    let buf := records.flatMap Dirent.bytes
    page ≠ [] ∧ buf.length ≤ nbytes.toNat ∧ walkDirents buf.length buf = some page
  | _ => False

variable {σ : Type}

/-- The reads of one directory OCB. -/
def openDirectory (T : Transport σ) : Machine IoRead Reply (ExtOcb × Link σ) where
  step msg s :=
    let result := ioRead T Qnx.headers msg s.1 s.2
    (result.1.1, result.1.2, result.2)

/-- The buffer is large enough for the next entry in both encodings. -/
def RoomForNext (dir : Directory) (msg : IoRead) (s : ExtOcb × Link σ) : Prop :=
  msg.verify = eok → ∀ e ∈ (dir.remaining s.1.data.offset).head?,
    24 + e.name.length ≤ msg.nbytes.toNat ∧
      direntReclen Qnx.headers e.name.length ≤ msg.nbytes.toNat

instance (dir : Directory) (msg : IoRead) (s : ExtOcb × Link σ) :
    Decidable (RoomForNext dir msg s) :=
  inferInstanceAs (Decidable (msg.verify = eok → ∀ e ∈ (dir.remaining s.1.data.offset).head?, _))

section Step

variable {T : Transport σ} {dir : Directory} {bound : σ → Prop} {ocb : ExtOcb} {w : Link σ}

theorem ioRead_refused {msg : IoRead} (refused : msg.verify ≠ eok) (q : Qnx) :
    ioRead T q msg ocb w = ((.errno msg.verify, ocb), w) := by
  rw [ioRead, if_pos refused]

/-- One read shows the next entries and moves the cursor behind them. -/
theorem ioRead_directory (lists : T.ListsDirectory ocb.data.fid dir bound)
    (directory : ocb.data.isDirectory = true) (binds : bound w.transport) {msg : IoRead}
    (verified : msg.verify = eok) (room : RoomForNext dir msg (ocb, w)) :
    ∃ reply ocb' w' page rest, ioRead T Qnx.headers msg ocb w = ((reply, ocb'), w') ∧
      dir.remaining ocb.data.offset = page ++ rest ∧ (page = [] → rest = []) ∧
      reply.Shows msg.nbytes (page.map (direntOf Qnx.headers)) ∧
      ocb'.data = { ocb.data with offset := lastCookie ocb.data.offset page } ∧
      bound w'.transport := by
  obtain ⟨fetched, w', listed, binds', ⟨behind, ordered⟩, full⟩ :=
    readDir_listed lists ocb.data.offset msg.nbytes binds
  obtain ⟨page, dropped, cut, packed, within, stopped⟩ :=
    packDirents_spec Qnx.headers fetched [] ocb.data.offset (Nat.zero_le msg.nbytes.toNat)
  have split : dir.remaining ocb.data.offset = page ++ (dropped ++ behind) := by
    rw [← ordered, cut, List.append_assoc]
  have named : ∀ e ∈ page, ProperName e.name := by
    intro e member
    apply dir.named
    apply (dir.remaining_suffix ocb.data.offset).subset
    rw [split]
    exact List.mem_append_left _ member
  -- with room for the next entry neither the server nor the loop comes back with nothing
  have ended : page = [] → dropped ++ behind = [] := by
    intro empty
    rw [empty, List.nil_append] at split
    cases left : dropped ++ behind with
    | nil => rfl
    | cons e rest =>
      have next := room verified e (by rw [split, left]; rfl)
      cases fetched with
      | nil =>
        have small := full rfl e (by rw [split, left]; rfl)
        omega
      | cons e' fetched =>
        have same : e' = e := by
          rw [← ordered, List.cons_append] at split
          exact (List.cons.inj (split.trans left)).1
        have small := stopped empty e' rfl
        rw [same] at small
        omega
  have replied : ioRead T Qnx.headers msg ocb w =
      if page = [] then ((.nbytes 0,
        { ocb with data := { ocb.data with offset := lastCookie ocb.data.offset page } }), w')
      else ((.dirents (page.map (direntOf Qnx.headers)),
        { ocb with
          data := { ocb.data with offset := lastCookie ocb.data.offset page }
          attrNbytes := Int64.ofNat (0 + packedSize Qnx.headers page) }), w') := by
    simp only [ioRead, if_neg (not_not_intro verified), directory, if_true, listed, packed,
      List.nil_append, List.map_eq_nil_iff]
  by_cases empty : page = []
  · refine ⟨_, _, w', page, dropped ++ behind, replied.trans (if_pos empty), split, ended, ?_, rfl,
      binds'⟩
    rw [empty]
    exact ⟨rfl, rfl⟩
  · refine ⟨_, _, w', page, dropped ++ behind, replied.trans (if_neg empty), split, ended, ?_, rfl,
      binds'⟩
    have buffer : (page.map (direntOf Qnx.headers)).flatMap Dirent.bytes = direntBytes page := by
      rw [List.flatMap_map]
      rfl
    have size := direntBytes_length named
    refine ⟨by simpa using empty, ?_, ?_⟩
    · rw [buffer, size, ← Nat.zero_add (packedSize _ _)]
      exact within
    · rw [buffer]
      apply walk_direntBytes named
      rw [size]
      exact length_le_packedSize Qnx.headers page

/-- The reads that passed the permission check, each with its reply. -/
def verifiedReads (requests : List IoRead) (replies : List Reply) : List (IoRead × Reply) :=
  (requests.zip replies).filter fun exchange => exchange.1.verify = eok

theorem verifiedReads_cons {msg : IoRead} (verified : msg.verify = eok) (reply : Reply)
    (requests : List IoRead) (replies : List Reply) :
    verifiedReads (msg :: requests) (reply :: replies) =
      (msg, reply) :: verifiedReads requests replies := by
  simp [verifiedReads, verified]

theorem verifiedReads_refused {msg : IoRead} (refused : msg.verify ≠ eok) (reply : Reply)
    (requests : List IoRead) (replies : List Reply) :
    verifiedReads (msg :: requests) (reply :: replies) = verifiedReads requests replies := by
  simp [verifiedReads, refused]

/-- The replies of a run are pages of what remained at its start. -/
theorem openDirectory_paged (requests : List IoRead)
    (lists : T.ListsDirectory ocb.data.fid dir bound)
    (directory : ocb.data.isDirectory = true) (binds : bound w.transport)
    (room : (openDirectory T).Meets (RoomForNext dir) requests (ocb, w)) :
    ∃ pages, Paged (dir.remaining ocb.data.offset) pages ∧
      List.Forall₂ (fun exchange page =>
          exchange.2.Shows exchange.1.nbytes (page.map (direntOf Qnx.headers)))
        (verifiedReads requests ((openDirectory T).run requests (ocb, w)).1) pages := by
  -- on the reads, from wherever the cursor stands
  induction requests generalizing ocb w with
  | nil => exact ⟨[], .stop, .nil⟩
  | cons msg requests ih =>
    obtain ⟨now, later⟩ := room
    by_cases verified : msg.verify = eok
    · obtain ⟨reply, ocb', w', page, rest, read, split, ended, shows, moved, binds'⟩ :=
        ioRead_directory lists directory binds verified now
      have step : (openDirectory T).step msg (ocb, w) = (reply, ocb', w') := by
        simp only [openDirectory, read]
      rw [step] at later
      have sameFid : ocb'.data.fid = ocb.data.fid := by rw [moved]
      -- the next read goes on behind the last record kept
      have cursor : ocb'.data.offset = lastCookie ocb.data.offset page := by rw [moved]
      obtain ⟨pages, paged, each⟩ := ih (sameFid ▸ lists) (by rw [moved]; exact directory) binds'
        later
      rw [cursor, dir.remaining_lastCookie split] at paged
      refine ⟨page :: pages, split ▸ .next ended paged, ?_⟩
      simp only [Machine.run, step, verifiedReads_cons verified]
      exact .cons shows each
    · -- a read that is refused leaves the cursor alone
      have step : (openDirectory T).step msg (ocb, w) = (.errno msg.verify, ocb, w) := by
        simp only [openDirectory, ioRead_refused verified]
      rw [step] at later
      obtain ⟨pages, paged, each⟩ := ih lists directory binds later
      refine ⟨pages, paged, ?_⟩
      simp only [Machine.run, step, verifiedReads_refused verified]
      exact each

end Step

/-- Every run of reads on a directory OCB that starts at offset 0 shows the entries in order:
a part of the listing, and the whole of it if a read comes back empty, which happens if there
are more reads than entries. -/
theorem directory_listed_once (dir : Directory) {T : Transport σ} {bound : σ → Prop}
    {ocb : ExtOcb} {w : Link σ} (directory : ocb.data.isDirectory = true)
    (start : ocb.data.offset = 0) (lists : T.ListsDirectory ocb.data.fid dir bound)
    (binds : bound w.transport) (requests : List IoRead)
    (room : (openDirectory T).Meets (RoomForNext dir) requests (ocb, w)) :
    let reads := verifiedReads requests ((openDirectory T).run requests (ocb, w)).1
    let listing := dir.entries.map fun e => (e.name, e.qid.path, e.offset)
    ∃ pages : List (List Dirent),
      List.Forall₂ (fun read page => read.2.Shows read.1.nbytes page) reads pages ∧
      let seen := (shown pages).map fun d => (d.name, d.ino, d.offset)
      seen <+: listing ∧ ([] ∈ pages → seen = listing) ∧
        (dir.entries.length < reads.length → [] ∈ pages) := by
  intro reads listing
  obtain ⟨pages, paged, each⟩ := openDirectory_paged requests lists directory binds room
  -- a cursor of 0 stands before the first entry
  have all : dir.remaining ocb.data.offset = dir.entries := if_pos start
  rw [all] at paged
  refine ⟨pages.map (List.map (direntOf Qnx.headers)), ?_, ?_, ?_, ?_⟩
  · exact List.forall₂_map_right_iff.mpr each
  · rw [shown_map, List.map_map]
    exact paged.shown_prefix.map _
  · intro ended
    have ended : [] ∈ pages := by simpa using ended
    rw [shown_map, List.map_map, paged.shown_eq ended]
    rfl
  · intro many
    rw [each.length_eq] at many
    exact List.mem_map.mpr ⟨[], paged.ends many, rfl⟩

/-! ### A directory of three -/

/-- Names of 4, 4 and 1 bytes. -/
def threeEntries : Directory where
  entries := [⟨⟨0, 1, 11⟩, 100, 8, [97, 97, 97, 97]⟩, ⟨⟨0, 1, 12⟩, 50, 8, [98, 98, 98, 98]⟩,
    ⟨⟨0x80, 1, 13⟩, 75, 4, [99]⟩]
  named := by decide
  distinct := by decide
  nonzero := by decide

def directoryOcb : ExtOcb := ⟨0, 0o040755, 0, ⟨1, 0, 0, true, 0⟩⟩

def listOnce (verify : Int32) : IoRead := ⟨56, .none, verify⟩

/-- With 56 bytes the server sends two entries and the client gets one. The third read is
refused. -/
theorem directory_listed_once_three :
    let requests := [listOnce eok, listOnce eok, listOnce 13, listOnce eok, listOnce eok]
    let reads := verifiedReads requests ((openDirectory (directoryServer threeEntries)).run requests
      (directoryOcb, ⟨NinePSession.new, (), []⟩)).1
    let listing := threeEntries.entries.map fun e => (e.name, e.qid.path, e.offset)
    ∃ pages : List (List Dirent),
      List.Forall₂ (fun read page => read.2.Shows read.1.nbytes page) reads pages ∧
      let seen := (shown pages).map fun d => (d.name, d.ino, d.offset)
      seen <+: listing ∧ ([] ∈ pages → seen = listing) ∧
        (threeEntries.entries.length < reads.length → [] ∈ pages) :=
  directory_listed_once threeEntries rfl rfl (directoryServer_lists threeEntries 1) trivial _
    ⟨by decide +kernel, by decide +kernel, by decide +kernel, by decide +kernel,
      by decide +kernel, trivial⟩

end Virtio9p
