import Virtio9p.Foundation.Paging
import Virtio9p.Protocol.Request
import Virtio9p.Protocol.Transact
import Virtio9p.Resmgr.Dirents

/-!
# Directories on the server

A directory with its cookies, what a server that lists it answers to a Treaddir, and such a
server.
-/
namespace Virtio9p

open Cursor NinePMessage

/-- The entries in the order of the server. A cookie of 0 stands for the start. -/
structure Directory where
  entries : List DirEntry
  named : ∀ e ∈ entries, ProperName e.name
  distinct : (entries.map DirEntry.offset).Nodup
  nonzero : ∀ e ∈ entries, e.offset ≠ 0

namespace Directory

variable {dir : Directory} {cookie : UInt64} {kept rest : List DirEntry}

def remaining (dir : Directory) (cookie : UInt64) : List DirEntry :=
  if cookie = 0 then dir.entries else Paging.after DirEntry.offset cookie dir.entries

theorem remaining_suffix (dir : Directory) (cookie : UInt64) :
    dir.remaining cookie <:+ dir.entries := by
  unfold remaining
  split
  · exact List.suffix_refl _
  · exact Paging.after_suffix _ _ _

/-- Going on behind the last entry kept is going on with the rest. -/
theorem remaining_lastCookie (split : dir.remaining cookie = kept ++ rest) :
    dir.remaining (lastCookie cookie kept) = rest := by
  rcases List.eq_nil_or_concat kept with rfl | ⟨before, e, rfl⟩
  · exact split
  · obtain ⟨front, whole⟩ := dir.remaining_suffix cookie
    have listing : dir.entries = front ++ before ++ e :: rest := by
      rw [← whole, split]
      simp
    have member : e ∈ dir.entries := by simp [listing]
    rw [List.concat_eq_append, lastCookie_append, remaining, if_neg (dir.nonzero e member), listing]
    exact Paging.after_append (listing ▸ dir.distinct)

end Directory

/-! ### Servers that list a directory -/

variable {σ : Type}

/-- While `fid` is bound to the directory, a Treaddir gets the next entries, in order: no more
than fit into `count`, and at least one if one is left and fits. -/
structure Transport.ListsDirectory (T : Transport σ) (fid : UInt32) (dir : Directory)
    (bound : σ → Prop) : Prop where
  readdir : ∀ s tag cookie count, bound s → ∃ page s',
    T.exchange (buildTreaddir tag fid cookie count).data s =
      ((0, ((Response.rreaddir page).encode tag).data), s') ∧ bound s' ∧
    page <+: dir.remaining cookie ∧ Response.dirSize page ≤ count.toNat ∧
    11 + Response.dirSize page < 2 ^ 32 ∧
    (page = [] → ∀ e ∈ (dir.remaining cookie).head?, count.toNat < 24 + e.name.length)

/-- The parser reads back a page of the directory. -/
theorem parsed_page {dir : Directory} {cookie : UInt64} {page : List DirEntry}
    (ordered : page <+: dir.remaining cookie) (small : 11 + Response.dirSize page < 2 ^ 32)
    (tag : UInt16) :
    markFault (parseRreaddir []) (ofData ((Response.rreaddir page).encode tag).data) =
      some (page, false) := by
  have size : Response.dirSize page = (UInt32.ofNat (Response.dirSize page)).toNat := by
    rw [UInt32.toNat_ofNat']
    omega
  have short : ∀ e ∈ page, e.name.length < 2 ^ 16 := by
    intro e member
    have listed := (dir.remaining_suffix cookie).subset (ordered.subset member)
    have bound := (dir.named e listed).2.1
    omega
  have consumes : Consumes messageView (rreaddirFields []) (Response.rreaddir page).payload page :=
    consumes_rreaddirFields page short _ size []
  have whole : parseRreaddir [] (ofData ((Response.rreaddir page).encode tag).data) = _ :=
    parsePayload_encode (.rreaddir page) tag consumes (by
      change 7 + (Wire.u32 _ ++ page.flatMap Wire.dirEntry).length < 2 ^ 32
      rw [List.length_append, Wire.u32_length, Response.dirEntries_length]
      omega)
  rw [markFault, whole]
  rfl

/-- `ReadDir` returns the entries of the answer. -/
theorem readDir_listed {T : Transport σ} {fid : UInt32} {dir : Directory} {bound : σ → Prop}
    (lists : T.ListsDirectory fid dir bound) (cookie : UInt64) (count : UInt32) {w : Link σ}
    (binds : bound w.transport) : ∃ page w',
      readDir T fid cookie count w = (some (.ok page), w') ∧ bound w'.transport ∧
      page <+: dir.remaining cookie ∧
      (page = [] → ∀ e ∈ (dir.remaining cookie).head?, count.toNat < 24 + e.name.length) := by
  obtain ⟨page, s', exchange, binds', ordered, -, small, full⟩ :=
    lists.readdir w.transport w.session.nextTag cookie count binds
  have parsed := parsed_page ordered small w.session.nextTag
  have answers : w.Answers T (fun tag => buildTreaddir tag fid cookie count) (.rreaddir page) :=
    ⟨s', exchange⟩
  have call := call_answered answers (markFault (parseRreaddir [])) (by simp [Response.type]) parsed
  refine ⟨page, w.callOnce T fun tag => buildTreaddir tag fid cookie count, ?_, ?_, ordered, full⟩
  · rw [readDir, call]
    rfl
  · change bound (T.exchange (buildTreaddir w.session.nextTag fid cookie count).data
      w.transport).2
    rw [exchange]
    exact binds'

/-! ### A server with one directory -/

/-- The longest page that fits. -/
def fittingPage : Nat → List DirEntry → List DirEntry
  | _, [] => []
  | room, e :: entries =>
    if 24 + e.name.length ≤ room then e :: fittingPage (room - (24 + e.name.length)) entries
    else []

theorem fittingPage_prefix (room : Nat) (entries : List DirEntry) :
    fittingPage room entries <+: entries := by
  induction entries generalizing room with
  | nil => exact List.prefix_refl []
  | cons e entries ih =>
    rw [fittingPage]
    split
    · exact (List.prefix_cons_inj e).mpr (ih _)
    · exact List.nil_prefix

theorem fittingPage_fits (room : Nat) (entries : List DirEntry) :
    Response.dirSize (fittingPage room entries) ≤ room := by
  induction entries generalizing room with
  | nil => exact Nat.zero_le room
  | cons e entries ih =>
    rw [fittingPage]
    split
    · have rest := ih (room - (24 + e.name.length))
      simp only [Response.dirSize, List.map_cons, List.sum_cons] at rest ⊢
      omega
    · exact Nat.zero_le room

theorem fittingPage_full {room : Nat} {entries : List DirEntry}
    (empty : fittingPage room entries = []) : ∀ e ∈ entries.head?, room < 24 + e.name.length := by
  cases entries with
  | nil => rintro e ⟨⟩
  | cons e entries =>
    rintro _ ⟨⟩
    rw [fittingPage] at empty
    split at empty
    · cases empty
    · omega

/-- Every fid stands for the directory. -/
def directoryServer (dir : Directory) : Transport Unit where
  exchange request _ :=
    let tag := UInt16.ofNat (LittleEndian.decode ((request.drop 5).take 2))
    let cookie := UInt64.ofNat (LittleEndian.decode ((request.drop 11).take 8))
    let count := LittleEndian.decode ((request.drop 19).take 4)
    let page := fittingPage (min count (2 ^ 32 - 12)) (dir.remaining cookie)
    ((0, ((Response.rreaddir page).encode tag).data), ())

theorem directoryServer_lists (dir : Directory) (fid : UInt32) :
    (directoryServer dir).ListsDirectory fid dir fun _ => True := by
  constructor
  rintro ⟨⟩ tag cookie count -
  let r := Request.treaddir fid cookie count
  have payload : r.payload = Wire.u32 fid ++ (Wire.u64 cookie ++ Wire.u32 count) := rfl
  have cookieField : ((r.build tag).data.drop 11).take 8 = Wire.u64 cookie := by
    rw [r.drop_build tag 4, payload, List.drop_left' (by simp), List.take_left' (by simp)]
  have countField : ((r.build tag).data.drop 19).take 4 = Wire.u32 count := by
    rw [r.drop_build tag 12, payload, ← List.append_assoc, List.drop_left' (by simp),
      List.take_of_length_le (by simp)]
  let page := fittingPage (min count.toNat (2 ^ 32 - 12)) (dir.remaining cookie)
  have fits := fittingPage_fits (min count.toNat (2 ^ 32 - 12)) (dir.remaining cookie)
  refine ⟨page, (), ?_, trivial, fittingPage_prefix _ _, ?_, ?_, ?_⟩
  · change (directoryServer dir).exchange (r.build tag).data () = _
    simp only [directoryServer, cookieField, countField, Request.tag_build]
    rw [Wire.u64, Wire.u32, LittleEndian.decode_encode_of_lt (UInt32.toNat_lt count),
      LittleEndian.decode_encode_of_lt (UInt64.toNat_lt cookie), UInt64.ofNat_toNat]
    rfl
  · change Response.dirSize (fittingPage _ _) ≤ _
    omega
  · change 11 + Response.dirSize (fittingPage _ _) < _
    omega
  · intro empty e first
    have large := fittingPage_full empty e first
    have member := List.mem_of_mem_head? first
    have short := (dir.named e ((dir.remaining_suffix cookie).subset member)).2.1
    omega

end Virtio9p
