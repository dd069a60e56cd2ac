import Virtio9p.Properties.WritePayload

/-!
# The end of the chunk loop

A round that goes on has its whole chunk acknowledged, so the total grows unless the chunk is
empty. The loop of `IoWrite` ends exactly if it does not come to a round from which on the
client gives nothing more and the server accepts the empty writes.
-/
namespace Virtio9p

open NinePMessage

variable {σ : Type}

/-- The server accepts an empty write in place of the next chunk. -/
def EmptyAccepted (T : Transport σ) (plan : WritePlan) (totalWritten : UInt32) (w : Link σ) :
    Prop :=
  isRlerror (ofData (T.exchange (chunkRequest plan totalWritten [] w.session.nextTag).data
    w.transport).1.2) = none

/-- From this round on, behind the inline bytes and with some bytes still to be written, the
client's message has nothing more to read, and the server accepts the empty writes. -/
structure Starved (T : Transport σ) (msg : IoWrite) (plan : WritePlan) (round : Nat)
    (totalWritten : UInt32) (w : Link σ) : Prop where
  more : totalWritten < plan.nbytes
  behind : plan.inlineBytes ≤ totalWritten
  nothing : ∀ n, msg.msgread (round + n) (nextChunk plan totalWritten).toNat
    (msg.ctpOffset + plan.headerSize + totalWritten.toNat) = .ok []
  accepted : ∀ n, EmptyAccepted T plan totalWritten ((Link.chunkSent T plan totalWritten [])^[n] w)

/-- The loop comes to a round from which on it is starved. -/
def Starves (T : Transport σ) (msg : IoWrite) (plan : WritePlan) (w : Link σ) : Prop :=
  ∃ n round totalWritten w',
    (chunkLoop T msg plan).after n (0, 0, w) = some (round, totalWritten, w') ∧
      Starved T msg plan round totalWritten w'

/-! ### Empty chunks -/

section Empty

variable {T : Transport σ} {msg : IoWrite} {plan : WritePlan} {round : Nat}
  {totalWritten : UInt32} {w : Link σ} {stored : σ → UInt64 → Bytes → σ → Prop}

/-- A chunk is empty exactly if it lies behind the inline bytes and nothing is read. -/
theorem writeChunk_nil_iff (progress : 0 < plan.chunkSize.toNat)
    (more : totalWritten < plan.nbytes) :
    writeChunk msg plan round totalWritten = .ok [] ↔ plan.inlineBytes ≤ totalWritten ∧
      msg.msgread round (nextChunk plan totalWritten).toNat
        (msg.ctpOffset + plan.headerSize + totalWritten.toNat) = .ok [] := by
  have moreNat := UInt32.lt_iff_toNat_lt.mp more
  have sizeNat : (nextChunk plan totalWritten).toNat = chunkLength plan totalWritten.toNat :=
    nextChunk_toNat (UInt32.le_of_lt more)
  have copiedNat := inlinePart_toNat plan totalWritten (nextChunk plan totalWritten)
  have positive : 0 < (nextChunk plan totalWritten).toNat := by
    rw [sizeNat, chunkLength]
    omega
  simp only [writeChunk, UInt32.le_iff_toNat_le]
  generalize nextChunk plan totalWritten = size at sizeNat copiedNat positive ⊢
  generalize inlinePart plan totalWritten size = copied at copiedNat ⊢
  have zero : (0 : UInt32).toNat = 0 := rfl
  by_cases behind : plan.inlineBytes.toNat ≤ totalWritten.toNat
  · -- the whole chunk is read from the client
    have none : copied = 0 := UInt32.toNat_inj.mp (by omega)
    have all : (0 : UInt32) < size := UInt32.lt_iff_toNat_lt.mpr positive
    rw [none, if_pos all, UInt32.sub_zero, zero, Nat.add_zero, and_iff_right behind]
    cases msg.msgread round size.toNat (msg.ctpOffset + plan.headerSize + totalWritten.toNat) with
    | error errno => exact Iff.rfl
    | ok bytes => exact Iff.rfl
  · have some : copied.toNat ≠ 0 := by omega
    rw [iff_false_intro (not_and_of_not_left _ behind), iff_false]
    intro empty
    by_cases rest : copied < size
    · rw [if_pos rest] at empty
      split at empty
      · cases empty
      · have size := congrArg List.length (Except.ok.inj empty)
        simp only [List.length_append, List.length_map, List.length_range, List.length_nil] at size
        omega
    · rw [if_neg rest] at empty
      have size := congrArg List.length (Except.ok.inj empty)
      simp only [List.length_map, List.length_range, List.length_nil] at size
      exact some size

/-- A round with an empty chunk that is accepted leaves the total where it is. -/
theorem round_of_empty (takes : T.TakesWrites plan.fid stored) (more : totalWritten < plan.nbytes)
    (empty : writeChunk msg plan round totalWritten = .ok [])
    (accepted : EmptyAccepted T plan totalWritten w) :
    (chunkLoop T msg plan).round (round, totalWritten, w) =
      .inr (round + 1, totalWritten, w.chunkSent T plan totalWritten []) := by
  cases chunkRound msg takes round more w with
  | unread errno outcome leaves =>
    simp only [chunkOutcome, empty] at outcome
    split at outcome <;> cases outcome
  | refused buf ecode code failed outcome same leaves =>
    unfold EmptyAccepted at accepted
    simp only [chunkOutcome, empty, accepted] at outcome
    cases outcome
  | acknowledged buf count within chunk outcome takenIn goesOn =>
    rw [empty] at chunk
    cases chunk
    have none : count = 0 := Nat.le_zero.mp within
    have short : ¬ 0 < ([] : Bytes).length := Nat.lt_irrefl 0
    rw [goesOn, none, if_neg (by decide), if_neg short,
      show totalWritten + UInt32.ofNat 0 = totalWritten from UInt32.add_zero totalWritten]

theorem Starved.empty (progress : 0 < plan.chunkSize.toNat)
    (starved : Starved T msg plan round totalWritten w) :
    writeChunk msg plan round totalWritten = .ok [] :=
  (writeChunk_nil_iff progress starved.more).mpr ⟨starved.behind, starved.nothing 0⟩

/-- Starvation goes on in the next round. -/
theorem Starved.next (starved : Starved T msg plan round totalWritten w) :
    Starved T msg plan (round + 1) totalWritten (w.chunkSent T plan totalWritten []) where
  more := starved.more
  behind := starved.behind
  nothing n := by
    rw [Nat.add_assoc, Nat.add_comm 1]
    exact starved.nothing (n + 1)
  accepted n := starved.accepted (n + 1)

end Empty

/-! ### Standing still -/

section Loop

variable {T : Transport σ} {msg : IoWrite} {plan : WritePlan} {round : Nat}
  {totalWritten : UInt32} {w : Link σ} {stored : σ → UInt64 → Bytes → σ → Prop}

/-- What is still to be written. -/
def unwritten (plan : WritePlan) (s : Nat × UInt32 × Link σ) : Nat :=
  plan.nbytes.toNat - s.2.1.toNat

/-- A starved loop goes on for ever with the same total. -/
theorem Starved.stands (takes : T.TakesWrites plan.fid stored)
    (progress : 0 < plan.chunkSize.toNat)
    (starved : Starved T msg plan round totalWritten w) :
    (chunkLoop T msg plan).Stands (unwritten plan) (round, totalWritten, w) := by
  intro n
  induction n generalizing round w with
  | zero => exact ⟨_, rfl, rfl⟩
  | succ n ih =>
    have accepted : EmptyAccepted T plan totalWritten w := starved.accepted 0
    have goes := round_of_empty takes starved.more (starved.empty progress) accepted
    obtain ⟨s', reached, same⟩ := ih starved.next
    exact ⟨s', by rw [Loop.after_goes goes, reached], same⟩

/-- A round after which no less is to be written has sent an empty chunk. -/
private theorem empty_of_same {next : Nat × UInt32 × Link σ} {buf : Bytes}
    (goesOn : GoesOn T msg plan stored round totalWritten w next buf)
    (same : unwritten plan next = unwritten plan (round, totalWritten, w)) : buf = [] := by
  have total := goesOn.total
  have within := goesOn.within
  simp only [unwritten] at same
  exact List.eq_nil_of_length_eq_zero (by omega)

private theorem accepted_of_outcome {buf : Bytes}
    (chunk : writeChunk msg plan round totalWritten = .ok buf) {sent count : Nat}
    (outcome : chunkOutcome T msg plan round totalWritten w = .acknowledged sent count)
    (nothing : buf = []) : EmptyAccepted T plan totalWritten w := by
  rw [nothing] at chunk
  simp only [chunkOutcome, chunk] at outcome
  unfold EmptyAccepted
  split at outcome
  · cases outcome
  · assumption

/-- A loop that stands still is starved: none of its rounds finds anything to send. -/
theorem starved_of_stands (takes : T.TakesWrites plan.fid stored)
    (progress : 0 < plan.chunkSize.toNat)
    (stands : (chunkLoop T msg plan).Stands (unwritten plan) (round, totalWritten, w)) :
    Starved T msg plan round totalWritten w := by
  -- what the first round shows every later round shows, too
  have first {round : Nat} {w : Link σ}
      (stands : (chunkLoop T msg plan).Stands (unwritten plan) (round, totalWritten, w)) :
      totalWritten < plan.nbytes ∧ writeChunk msg plan round totalWritten = .ok [] ∧
        EmptyAccepted T plan totalWritten w ∧ (chunkLoop T msg plan).Stands (unwritten plan)
          (round + 1, totalWritten, w.chunkSent T plan totalWritten []) := by
    obtain ⟨next, goes, same, later⟩ := stands.next
    obtain ⟨buf, goesOn⟩ := round_goesOn takes goes
    have nothing := empty_of_same goesOn same
    have accepted := accepted_of_outcome goesOn.chunk goesOn.outcome nothing
    have chunk := goesOn.chunk
    rw [nothing] at chunk
    rw [round_of_empty takes goesOn.more chunk accepted] at goes
    cases goes
    exact ⟨goesOn.more, chunk, accepted, later⟩
  have every (n : Nat) : ∀ {round : Nat} {w : Link σ},
      (chunkLoop T msg plan).Stands (unwritten plan) (round, totalWritten, w) →
      writeChunk msg plan (round + n) totalWritten = .ok [] ∧
        EmptyAccepted T plan totalWritten ((Link.chunkSent T plan totalWritten [])^[n] w) := by
    induction n with
    | zero =>
      intro round w stands
      obtain ⟨-, chunk, accepted, -⟩ := first stands
      exact ⟨chunk, accepted⟩
    | succ n ih =>
      intro round w stands
      obtain ⟨-, -, -, later⟩ := first stands
      obtain ⟨chunk, accepted⟩ := ih later
      rw [Nat.add_assoc, Nat.add_comm 1] at chunk
      exact ⟨chunk, accepted⟩
  have more := (first stands).1
  refine ⟨more, ((writeChunk_nil_iff progress more).mp (every 0 stands).1).1, ?_, ?_⟩
  · intro n
    exact ((writeChunk_nil_iff progress more).mp (every n stands).1).2
  · intro n
    exact (every n stands).2

/-- Rounds of the loop never write beyond the end. -/
private theorem unwritten_antitone (takes : T.TakesWrites plan.fid stored)
    (s s' : Nat × UInt32 × Link σ)
    (goes : (chunkLoop T msg plan).round s = .inr s') : unwritten plan s' ≤ unwritten plan s := by
  obtain ⟨round, totalWritten, w⟩ := s
  obtain ⟨buf, goesOn⟩ := round_goesOn takes goes
  have total := goesOn.total
  simp only [unwritten]
  omega

end Loop

theorem chunkLoop_ends_iff {T : Transport σ} {q : Qnx} {msg : IoWrite} {ocb : ExtOcb}
    {plan : WritePlan} {stored : σ → UInt64 → Bytes → σ → Prop}
    (planned : writePlan q msg ocb = .ok plan) (takes : T.TakesWrites plan.fid stored)
    (w : Link σ) : (chunkLoop T msg plan).Ends (0, 0, w) ↔ ¬ Starves T msg plan w := by
  have progress : 0 < plan.chunkSize.toNat := by
    rw [(writePlan_same planned).2.2]
    exact chunkSize_pos ocb
  have antitone : ∀ s s', True → (chunkLoop T msg plan).round s = .inr s' →
      True ∧ unwritten plan s' ≤ unwritten plan s :=
    fun s s' _ goes => ⟨trivial, unwritten_antitone takes s s' goes⟩
  rw [Loop.ends_iff_not_stands antitone trivial]
  refine not_congr ⟨?_, ?_⟩
  · rintro ⟨n, ⟨round, totalWritten, w'⟩, reached, stands⟩
    exact ⟨n, round, totalWritten, w', reached, starved_of_stands takes progress stands⟩
  · rintro ⟨n, round, totalWritten, w', reached, starved⟩
    exact ⟨n, _, reached, starved.stands takes progress⟩

/-- The chunk loop of a write ends exactly if it does not come to a round from which on it is
starved. -/
theorem writeLoop_ends_iff {T : Transport σ} {q : Qnx} {msg : IoWrite} {ocb : ExtOcb}
    {plan : WritePlan} {stored : σ → UInt64 → Bytes → σ → Prop}
    (planned : writePlan q msg ocb = .ok plan) (takes : T.TakesWrites plan.fid stored)
    (w : Link σ) :
    (∃ fuel result, (writeLoop T msg plan fuel 0 0 w).1 = some result) ↔
      ¬ Starves T msg plan w := by
  rw [← chunkLoop_ends_iff planned takes w]
  constructor
  · rintro ⟨fuel, result, ended⟩
    exact ⟨fuel + 1, _, run_of_writeLoop (Prod.ext ended rfl)⟩
  · rintro ⟨fuel, ⟨result, w'⟩, left⟩
    exact ⟨fuel, result, by rw [writeLoop_of_run left]⟩

/-! ### A client that announces more than it sends -/

/-- A write of one byte whose message ends with its header. -/
def headerOnly : IoWrite where
  nbytes := 1
  xtype := .none
  memory _ := 0
  ctpOffset := 0
  msglen := 16
  verify := eok
  msgread _ _ _ := .ok []
  bounded _ n _ bytes read := by
    cases read
    exact Nat.zero_le n

/-- The plan of a sequential write at the start of the file. -/
def firstPlan (msg : IoWrite) : WritePlan := planAt msg plainOcb 0 16

private theorem fileServer_takes (msg : IoWrite) :
    fileServer.TakesWrites (firstPlan msg).fid fun file offset data file' =>
      id file' = writeAt (id file) offset data :=
  (fileServer_serves (firstPlan msg).fid).takesWrites

theorem writeLoop_ends_iff_alone :
    (∃ fuel result, (writeLoop fileServer (combineWrite 0 3) (firstPlan (combineWrite 0 3)) fuel 0 0
        emptyFile).1 = some result) ↔
      ¬ Starves fileServer (combineWrite 0 3) (firstPlan (combineWrite 0 3)) emptyFile :=
  writeLoop_ends_iff (show writePlan Qnx.headers (combineWrite 0 3) plainOcb =
    .ok (firstPlan (combineWrite 0 3)) from rfl) (fileServer_takes (combineWrite 0 3)) emptyFile

/-- The server acknowledges what it is sent, every message read returns 0 bytes, and the
handler never returns. -/
theorem headerOnly_never_ends :
    writePlan Qnx.headers headerOnly plainOcb = .ok (firstPlan headerOnly) ∧
      fileServer.Acknowledges plainOcb.data.fid ∧
      ¬ ∃ fuel result, (writeLoop fileServer headerOnly (firstPlan headerOnly) fuel 0 0
        emptyFile).1 = some result := by
  have serves := fileServer_serves plainOcb.data.fid
  refine ⟨rfl, serves.acknowledges, ?_⟩
  rintro ⟨fuel, result, ended⟩
  have starved : Starved fileServer headerOnly (firstPlan headerOnly) 0 0 emptyFile := by
    refine ⟨by decide, by decide, fun _ => rfl, fun n => ?_⟩
    -- in whatever state of the link
    generalize (Link.chunkSent fileServer (firstPlan headerOnly) 0 [])^[n] emptyFile = w
    obtain ⟨s', exchange⟩ := serves.acknowledges w.transport w.session.nextTag 0 []
      (Nat.two_pow_pos 32)
    have response : (fileServer.exchange (chunkRequest (firstPlan headerOnly) 0 []
        w.session.nextTag).data w.transport).1.2 =
        ((Response.rwrite 0).encode w.session.nextTag).data :=
      congrArg (fun answer => answer.1.2) exchange
    unfold EmptyAccepted
    rw [response]
    exact isRlerror_encode (.rwrite 0) _ (by simp [Response.type])
  have never := (starved.stands (fileServer_takes headerOnly) (by decide)).not_ends
  exact never ⟨fuel + 1, _, run_of_writeLoop (Prod.ext ended rfl)⟩

end Virtio9p
