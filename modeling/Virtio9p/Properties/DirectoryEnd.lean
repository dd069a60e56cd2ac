import Virtio9p.Properties.DirectoryListing
import Virtio9p.Protocol.ReturnCodes

/-!
# The end of a directory

A read of a directory that comes back empty tells the client that there is nothing more. It does
so rightly exactly if the buffer holds the next entry in both encodings, or no page arrives.
-/
namespace Virtio9p

open NinePMessage Cursor

variable {σ : Type}

/-- What a server answers to a Treaddir when these entries remain: an error, or the next entries
as far as they fit. -/
def AnswersReaddir (remaining : List DirEntry) (count : UInt32) (tag : UInt16) (bytes : Bytes) :
    Prop :=
  (∃ ecode, bytes = ((Response.rlerror ecode).encode tag).data) ∨
    ∃ page, bytes = ((Response.rreaddir page).encode tag).data ∧ page <+: remaining ∧
      Response.dirSize page ≤ count.toNat ∧ 11 + Response.dirSize page < 2 ^ 32 ∧
      (page = [] → ∀ e ∈ remaining.head?, count.toNat < 24 + e.name.length)

/-- An exchange may fail; a Treaddir on `fid` that gets an answer gets one from the directory. -/
structure Transport.ListsOrFails (T : Transport σ) (fid : UInt32) (dir : Directory) : Prop where
  nonpositive : T.Nonpositive
  readdir : ∀ s tag cookie count,
    (T.exchange (buildTreaddir tag fid cookie count).data s).1.1 = 0 →
      AnswersReaddir (dir.remaining cookie) count tag
        (T.exchange (buildTreaddir tag fid cookie count).data s).1.2

/-- The response to the Treaddir of a read, if one arrives. -/
def receivedPage (T : Transport σ) (msg : IoRead) (ocb : ExtOcb) (w : Link σ) : Option Bytes :=
  w.tagged.received T
    (buildTreaddir w.session.nextTag ocb.data.fid ocb.data.offset msg.nbytes)

/-- With entries left, the reply is an error or shows some; an empty success means that none is
left. -/
structure ReportsEndRightly (remaining : List DirEntry) (reply : Reply) : Prop where
  progress : remaining ≠ [] → (∃ e, e ≠ eok ∧ reply = .errno e) ∨
    ∃ records, records ≠ [] ∧ reply = .dirents records
  ended : reply = .nbytes 0 → remaining = []

theorem ReportsEndRightly.of_errno {e : Int32} (failed : e ≠ eok) (remaining : List DirEntry) :
    ReportsEndRightly remaining (.errno e) where
  progress _ := .inl ⟨e, failed, rfl⟩
  ended reply := nomatch reply

section Read

variable {T : Transport σ} {dir : Directory} {ocb : ExtOcb} {msg : IoRead} {w : Link σ}
  (lists : T.ListsOrFails ocb.data.fid dir)

include lists

/-- What a response that arrives is. -/
private theorem page_answers {bytes : Bytes} (arrived : receivedPage T msg ocb w = some bytes) :
    AnswersReaddir (dir.remaining ocb.data.offset) msg.nbytes w.session.nextTag bytes := by
  obtain ⟨s, exchanged⟩ := received_exchanged arrived
  have answers := lists.readdir s w.session.nextTag ocb.data.offset msg.nbytes (by rw [exchanged])
  rwa [exchanged] at answers

/-- Without a page `ReadDir` fails. -/
private theorem readDir_failed
    (nothing : ∀ bytes, receivedPage T msg ocb w = some bytes →
      typeByte bytes = MessageType.rlerror.code) :
    ∃ rc w', readDir T ocb.data.fid ocb.data.offset msg.nbytes w = (some (.error rc), w') ∧
      rc ≠ 0 := by
  let request := buildTreaddir w.session.nextTag ocb.data.fid ocb.data.offset msg.nbytes
  have failed : ∃ rc, (Link.call T
      (fun tag => buildTreaddir tag ocb.data.fid ocb.data.offset msg.nbytes)
      (markFault (parseRreaddir [])) w).1 = .error rc ∧ rc ≠ 0 := by
    change ∃ rc, readReply _ (transact T request w.tagged).1 = .error rc ∧ rc ≠ 0
    cases arrived : receivedPage T msg ocb w with
    | none =>
      have negative := Int32.ne_of_lt (transact_unanswered lists.nonpositive arrived)
      exact ⟨_, by rw [readReply, if_pos negative], negative⟩
    | some bytes =>
      have kind := nothing bytes arrived
      rw [transact_received arrived]
      rcases page_answers lists arrived with ⟨ecode, rfl⟩ | ⟨page, rfl, -⟩
      · exact ⟨_, readResponse_refused (markFault_only .rreaddir _) (by decide) ecode _,
          refusal_ne_zero ecode⟩
      · rw [typeByte_encode] at kind
        cases MessageType.code_injective kind
  obtain ⟨rc, reply, nonzero⟩ := failed
  refine ⟨rc, _, Prod.ext ?_ rfl, nonzero⟩
  unfold readDir
  simp only [reply]

/-- A page that arrives is what `ReadDir` returns. -/
private theorem readDir_page {bytes : Bytes} (arrived : receivedPage T msg ocb w = some bytes)
    (proper : typeByte bytes ≠ MessageType.rlerror.code) :
    ∃ page w', readDir T ocb.data.fid ocb.data.offset msg.nbytes w = (some (.ok page), w') ∧
      page <+: dir.remaining ocb.data.offset ∧ Response.dirSize page ≤ msg.nbytes.toNat ∧
      (page = [] → ∀ e ∈ (dir.remaining ocb.data.offset).head?,
        msg.nbytes.toNat < 24 + e.name.length) := by
  let request := buildTreaddir w.session.nextTag ocb.data.fid ocb.data.offset msg.nbytes
  rcases page_answers lists arrived with ⟨ecode, rfl⟩ | ⟨page, rfl, ordered, fits, small, full⟩
  · exact absurd (typeByte_encode _ _) proper
  · have reply : (Link.call T
        (fun tag => buildTreaddir tag ocb.data.fid ocb.data.offset msg.nbytes)
        (markFault (parseRreaddir [])) w).1 = .ok (page, false) := by
      change readReply _ (transact T request w.tagged).1 = _
      rw [transact_received arrived]
      exact readResponse_granted (by simp [Response.type]) (parsed_page ordered small _)
    refine ⟨page, _, Prod.ext ?_ rfl, ordered, fits, full⟩
    unfold readDir
    simp only [reply, Bool.false_eq_true, if_false]

/-- A page that arrives shows an entry exactly if the next one fits the buffer twice. -/
private theorem page_reported_iff {bytes : Bytes} (directory : ocb.data.isDirectory = true)
    (verified : msg.verify = eok) (arrived : receivedPage T msg ocb w = some bytes)
    (proper : typeByte bytes ≠ MessageType.rlerror.code) :
    ReportsEndRightly (dir.remaining ocb.data.offset) (ioRead T Qnx.headers msg ocb w).1.1 ↔
      RoomForNext dir msg (ocb, w) := by
  obtain ⟨fetched, w', listed, ⟨behind, ordered⟩, fits, full⟩ := readDir_page lists arrived proper
  obtain ⟨page, dropped, cut, packed, within, stopped⟩ :=
    packDirents_spec Qnx.headers fetched [] ocb.data.offset (Nat.zero_le msg.nbytes.toNat)
  have replied : (ioRead T Qnx.headers msg ocb w).1.1 =
      if page = [] then .nbytes 0 else .dirents (page.map (direntOf Qnx.headers)) := by
    simp only [ioRead, if_neg (not_not_intro verified), directory, if_true, listed, packed,
      List.nil_append, List.map_eq_nil_iff]
    split <;> rfl
  rw [replied]
  cases page with
  | nil =>
    -- nothing shown: the next entry was too large for the server or for the loop
    rw [if_pos rfl]
    constructor
    · intro rightly
      have none := rightly.ended rfl
      intro _ e next
      rw [none] at next
      cases next
    · intro room
      have empty : dir.remaining ocb.data.offset = [] := by
        cases left : dir.remaining ocb.data.offset with
        | nil => rfl
        | cons e rest =>
          obtain ⟨served, shown⟩ := room verified e (by rw [left]; rfl)
          cases fetched with
          | nil =>
            have small := full rfl e (by rw [left]; rfl)
            omega
          | cons e' fetched =>
            rw [left, List.cons_append] at ordered
            have small := stopped rfl e' rfl
            rw [(List.cons.inj ordered).1] at small
            omega
      exact ⟨fun left => absurd empty left, fun _ => empty⟩
  | cons e page =>
    -- an entry shown has passed both limits
    rw [if_neg (List.cons_ne_nil e page)]
    refine iff_of_true ⟨fun _ => .inr ⟨_, List.cons_ne_nil _ _, rfl⟩, fun wrong => ?_⟩ ?_
    · cases wrong
    intro _ e' next
    rw [← ordered, cut] at next
    cases next
    rw [cut] at fits
    simp only [Response.dirSize, List.cons_append, List.map_cons, List.sum_cons] at fits
    rw [packedSize_cons] at within
    exact ⟨by omega, by omega⟩

end Read

/-- A read of a directory reports its end rightly exactly if the buffer holds the next entry in
both encodings, the read is refused, or no page arrives. -/
theorem ioRead_reports_end_iff {T : Transport σ} {dir : Directory} {ocb : ExtOcb}
    (lists : T.ListsOrFails ocb.data.fid dir) (directory : ocb.data.isDirectory = true)
    (msg : IoRead) (w : Link σ) :
    ReportsEndRightly (dir.remaining ocb.data.offset) (ioRead T Qnx.headers msg ocb w).1.1 ↔
      RoomForNext dir msg (ocb, w) ∨ ∀ bytes, receivedPage T msg ocb w = some bytes →
        typeByte bytes = MessageType.rlerror.code := by
  by_cases verified : msg.verify = eok
  · by_cases nothing : ∀ bytes, receivedPage T msg ocb w = some bytes →
        typeByte bytes = MessageType.rlerror.code
    · -- the error is handed through
      refine iff_of_true ?_ (.inr nothing)
      obtain ⟨rc, w', failed, nonzero⟩ := readDir_failed lists nothing
      have replied : (ioRead T Qnx.headers msg ocb w).1.1 = .errno (-rc) := by
        simp only [ioRead, if_neg (not_not_intro verified), directory, if_true, failed]
      rw [replied]
      exact .of_errno (neg_ne_eok nonzero) _
    · have page := nothing
      simp only [not_forall] at page
      obtain ⟨bytes, arrived, proper⟩ := page
      rw [or_iff_left nothing]
      exact page_reported_iff lists directory verified arrived proper
  · rw [ioRead_refused verified]
    exact iff_of_true (.of_errno verified _) (.inl fun passed => absurd passed verified)

/-! ### A buffer between the two sizes -/

theorem directoryServer_listsOrFails (dir : Directory) (fid : UInt32) :
    (directoryServer dir).ListsOrFails fid dir where
  nonpositive request s := Int32.le_refl _
  readdir s tag cookie count _ := by
    obtain ⟨page, s', exchanged, -, ordered, fits, small, full⟩ :=
      (directoryServer_lists dir fid).readdir s tag cookie count trivial
    rw [exchanged]
    exact .inr ⟨page, rfl, ordered, fits, small, full⟩

/-- A read before the first of the three entries. -/
def firstRead (nbytes : UInt32) : Reply :=
  (ioRead (directoryServer threeEntries) Qnx.headers ⟨nbytes, .none, eok⟩ directoryOcb
    ⟨NinePSession.new, (), []⟩).1.1

theorem ioRead_reports_end_iff_three :
    ReportsEndRightly (threeEntries.remaining 0) (firstRead 32) ↔
      RoomForNext threeEntries ⟨32, .none, eok⟩ (directoryOcb, ⟨NinePSession.new, (), []⟩) ∨
        ∀ bytes, receivedPage (directoryServer threeEntries) ⟨32, .none, eok⟩ directoryOcb
          ⟨NinePSession.new, (), []⟩ = some bytes → typeByte bytes = MessageType.rlerror.code :=
  ioRead_reports_end_iff (directoryServer_listsOrFails threeEntries directoryOcb.data.fid) rfl
    ⟨32, .none, eok⟩ ⟨NinePSession.new, (), []⟩

/-- A name of four bytes takes 28 bytes on the wire and 32 in the reply. With 28 the server sends
it, and the handler drops it and reports the end. -/
theorem small_buffer_hides_entries :
    ¬ ReportsEndRightly (threeEntries.remaining 0) (firstRead 28) := by
  intro rightly
  have ended : firstRead 28 = .nbytes 0 := by decide +kernel
  exact absurd (rightly.ended ended) (by decide)

end Virtio9p
