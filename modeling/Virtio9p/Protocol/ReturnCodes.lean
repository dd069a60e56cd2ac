import Virtio9p.Protocol.Calls

/-!
# Return codes

Which response ends the attempts of `Transact`, and the sign of what a call returns
after it. The transport gives 0 or a negative error number; an Rlerror carries an
unsigned word that `Transact` casts and negates.
-/
namespace Virtio9p

open NinePMessage

variable {σ : Type}

/-- `Exchange` returns 0 on success and a negative error number on failure. -/
def Transport.Nonpositive (T : Transport σ) : Prop :=
  ∀ request s, (T.exchange request s).1.1 ≤ 0

/-- The response bytes of the attempt that succeeds, if one of the attempts does. -/
def receivedWithin (T : Transport σ) (request : NinePMessage) : Nat → Link σ → Option Bytes
  | 0, _ => none
  | attempts + 1, w =>
    if w.exchangeCode T request = 0 then some (T.exchange request.data w.transport).1.2
    else if w.session.reinitializing then none
    else
      let reinit := reinitializeSession T (w.exchanged T request)
      if reinit.1 ≠ 0 then none else receivedWithin T request attempts reinit.2

def Link.received (T : Transport σ) (request : NinePMessage) (w : Link σ) : Option Bytes :=
  receivedWithin T request maxRetries w

/-- The type byte of a response. -/
def typeByte (bytes : Bytes) : UInt8 := (ofData bytes).getType

theorem typeByte_encode (r : Response) (tag : UInt16) :
    typeByte (r.encode tag).data = r.type.code :=
  getType_of_header (m := ofData (r.encode tag).data) (r.encode_data tag)

/-- An Rlerror whose error code has no negative 32-bit counterpart. -/
def HugeError (bytes : Bytes) : Prop :=
  ∃ ecode, isRlerror (ofData bytes) = some ecode ∧ 2 ^ 31 < ecode.toNat

/-! ### The sign of an Rlerror -/

private theorem negated_toInt (ecode : UInt32) :
    (-ecode.toInt32).toInt = (-(ecode.toNat : Int)).bmod (2 ^ 32) := by
  have cast : ecode.toInt32.toInt = (ecode.toNat : Int).bmod (2 ^ 32) := by
    simp [Int32.toInt, BitVec.toInt_eq_toNat_bmod]
  rw [Int32.toInt_neg, cast, Int.bmod_neg_bmod]

theorem negated_code {ecode : UInt32} (nonzero : ecode ≠ 0) (small : ecode.toNat ≤ 2 ^ 31) :
    -ecode.toInt32 < 0 := by
  have positive : ecode.toNat ≠ 0 := fun zero => nonzero (UInt32.toNat_inj.mp zero)
  rw [Int32.lt_iff_toInt_lt, negated_toInt]
  change _ < (0 : Int)
  rw [Int.bmod_def]
  split <;> omega

theorem negated_huge {ecode : UInt32} (huge : 2 ^ 31 < ecode.toNat) : 0 < -ecode.toInt32 := by
  have bound := ecode.toNat_lt
  rw [Int32.lt_iff_toInt_lt, negated_toInt]
  change (0 : Int) < _
  rw [Int.bmod_def]
  split <;> omega

theorem isRlerror_iff {m : NinePMessage} :
    (∃ ecode, isRlerror m = some ecode) ↔ m.getType = MessageType.rlerror.code := by
  unfold isRlerror
  split
  · rename_i other
    simpa using other
  · rename_i same
    simpa using not_not.mp same

/-! ### Transact -/

section Transact

variable {T : Transport σ} {request : NinePMessage} {w : Link σ}

private theorem transactLoop_received {bytes : Bytes} {attempts : Nat} {w : Link σ}
    (received : receivedWithin T request attempts w = some bytes) :
    (transactLoop T (reinitializeSession T) request attempts w).1 = readResponse bytes := by
  induction attempts generalizing w with
  | zero => cases received
  | succ attempts ih =>
    rw [receivedWithin] at received
    by_cases ok : w.exchangeCode T request = 0
    · rw [if_pos ok] at received
      cases received
      rw [transactLoop_ok _ ok, Link.answer, if_neg (not_not_intro ok)]
    · rw [if_neg ok] at received
      cases outer : w.session.reinitializing with
      | true =>
        rw [if_pos outer] at received
        cases received
      | false =>
        simp only [outer, Bool.false_eq_true, if_false] at received
        rw [transactLoop_failed _ ok outer]
        split at received
        · cases received
        · rename_i again
          rw [if_neg again]
          exact ih received

/-- The answered attempt decides what `Transact` returns. -/
theorem transact_received {bytes : Bytes} (received : w.received T request = some bytes) :
    (transact T request w).1 = readResponse bytes :=
  transactLoop_received received

private theorem transactLoop_unanswered (nonpositive : T.Nonpositive) {attempts : Nat}
    {w : Link σ} (unanswered : receivedWithin T request attempts w = none) :
    (transactLoop T (reinitializeSession T) request attempts w).1.1 < 0 := by
  have failed {w : Link σ} (code : w.exchangeCode T request ≠ 0) :
      w.exchangeCode T request < 0 :=
    Int32.lt_of_le_of_ne (nonpositive request.data w.transport) code
  induction attempts generalizing w with
  | zero => exact (by decide : -eio < 0)
  | succ attempts ih =>
    rw [receivedWithin] at unanswered
    by_cases ok : w.exchangeCode T request = 0
    · rw [if_pos ok] at unanswered
      cases unanswered
    · rw [if_neg ok] at unanswered
      cases outer : w.session.reinitializing with
      | true =>
        rw [transactLoop_reinitializing _ outer, Link.answer, if_pos ok]
        exact failed ok
      | false =>
        simp only [outer, Bool.false_eq_true, if_false] at unanswered
        rw [transactLoop_failed _ ok outer]
        split at unanswered
        · rename_i stopped
          rw [if_pos stopped]
          exact failed ok
        · rename_i again
          rw [if_neg again]
          exact ih unanswered

theorem transact_unanswered (nonpositive : T.Nonpositive)
    (unanswered : w.received T request = none) : (transact T request w).1.1 < 0 :=
  transactLoop_unanswered nonpositive unanswered

/-- The bytes received are those of an exchange that went through. -/
theorem received_exchanged {bytes : Bytes} (received : w.received T request = some bytes) :
    ∃ s, (T.exchange request.data s).1 = (0, bytes) := by
  unfold Link.received at received
  generalize maxRetries = attempts at received
  induction attempts generalizing w with
  | zero => cases received
  | succ attempts ih =>
    rw [receivedWithin] at received
    by_cases ok : w.exchangeCode T request = 0
    · rw [if_pos ok] at received
      exact ⟨w.transport, Prod.ext ok (Option.some.inj received)⟩
    · rw [if_neg ok] at received
      split at received
      · cases received
      · simp only at received
        split at received
        · cases received
        · exact ih received

end Transact

/-! ### Signed results -/

/-- What a call makes of the response it received: a value only for its own R-type, a
positive error only after a huge error code. -/
structure Signed {α : Type} (type : MessageType) (received : Option Bytes)
    (result : Except Int32 α) : Prop where
  value : ∀ a, result = .ok a → received.map typeByte = some type.code
  error : ∀ rc, result = .error rc → rc < 0 ∨ ∃ bytes, received = some bytes ∧ HugeError bytes
  huge : ∀ bytes, received = some bytes → HugeError bytes → ∃ rc, result = .error rc ∧ 0 < rc

/-- The parser accepts no other type byte. -/
def ParsesOnly {α : Type} (type : MessageType) (parse : NinePMessage → Option α) : Prop :=
  ∀ m a, parse m = some a → m.getType = type.code

theorem parsesOnly_payload {α : Type} (type : MessageType) (payload : Decoder α) :
    ParsesOnly type fun m => (parsePayload type payload m).1 := by
  intro m a parsed
  by_contra other
  simp only [parsePayload, if_pos other] at parsed
  cases parsed

theorem parsesOnly_header (type : MessageType) :
    ParsesOnly type fun m => (parseHeader type m).1 := by
  intro m a parsed
  by_contra other
  simp only [parseHeader, if_neg other] at parsed
  cases parsed

theorem ParsesOnly.map {α β : Type} {type : MessageType} {parse : NinePMessage → Option α}
    (only : ParsesOnly type parse) (f : NinePMessage → α → β) :
    ParsesOnly type fun m => (parse m).map (f m) := by
  intro m b parsed
  obtain ⟨a, value, -⟩ := Option.map_eq_some_iff.mp parsed
  exact only m a value

/-- After an Rlerror no value is read, and the sign is that of the negated code. -/
theorem markFault_only {α : Type} (type : MessageType) (payload : Decoder α) :
    ParsesOnly type (markFault (parsePayload type payload)) :=
  (parsesOnly_payload type payload).map fun m a => (a, (parsePayload type payload m).2.fault)

private theorem signed_rlerror {α : Type} {type : MessageType} {parse : NinePMessage → Option α}
    (only : ParsesOnly type parse) (proper : type ≠ .rlerror) {bytes : Bytes} {ecode : UInt32}
    (kind : isRlerror (ofData bytes) = some ecode) :
    Signed type (some bytes) (readReply parse (readResponse bytes)) := by
  have code : (readResponse bytes).1 = -ecode.toInt32 := by simp only [readResponse, kind]
  by_cases huge : 2 ^ 31 < ecode.toNat
  · have positive := negated_huge huge
    have failed : (readResponse bytes).1 ≠ 0 := code ▸ (Int32.ne_of_lt positive).symm
    rw [readReply, if_pos failed, code]
    constructor
    · rintro a ⟨⟩
    · rintro rc ⟨⟩
      exact .inr ⟨bytes, rfl, ecode, kind, huge⟩
    · intro _ _ _
      exact ⟨_, rfl, positive⟩
  · have harmless : ¬ HugeError bytes := by
      rintro ⟨other, same, above⟩
      rw [kind] at same
      cases same
      exact huge above
    obtain ⟨rc, failed, negative⟩ :
        ∃ rc, readReply parse (readResponse bytes) = .error rc ∧ rc < 0 := by
      by_cases zero : ecode = 0
      · -- `-0` does not stop `Transact`; the parser then meets the type byte of an Rlerror
        have rejected : parse (readResponse bytes).2 = none := by
          cases parsed : parse (readResponse bytes).2 with
          | none => rfl
          | some a =>
            have type := only _ a parsed
            simp only [readResponse, kind, isRlerror_iff.mp ⟨ecode, kind⟩] at type
            exact absurd (MessageType.code_injective type).symm proper
        have success : (readResponse bytes).1 = 0 := by rw [code, zero]; rfl
        refine ⟨-eio, ?_, by decide⟩
        simp only [readReply, success, ne_eq, not_true_eq_false, if_false, rejected]
      · have negative := negated_code zero (Nat.le_of_not_lt huge)
        refine ⟨-ecode.toInt32, ?_, negative⟩
        rw [readReply, if_pos (code ▸ Int32.ne_of_lt negative), code]
    rw [failed]
    constructor
    · rintro a ⟨⟩
    · rintro rc ⟨⟩
      exact .inl negative
    · rintro _ ⟨⟩ wrong
      exact absurd wrong harmless

/-- Any other response is left to the parser, which looks at the type byte. -/
private theorem signed_parsed {α : Type} {type : MessageType} {parse : NinePMessage → Option α}
    (only : ParsesOnly type parse) {bytes : Bytes} (kind : isRlerror (ofData bytes) = none) :
    Signed type (some bytes) (readReply parse (readResponse bytes)) := by
  have harmless : ¬ HugeError bytes := by
    rintro ⟨ecode, error, -⟩
    rw [kind] at error
    cases error
  simp only [readResponse, kind, readReply, ne_eq, not_true_eq_false, if_false]
  cases parsed : parse (ofData bytes) with
  | none =>
    constructor
    · rintro a ⟨⟩
    · rintro rc ⟨⟩
      exact .inl (by decide)
    · rintro _ ⟨⟩ huge
      exact absurd huge harmless
  | some a =>
    constructor
    · rintro _ ⟨⟩
      exact congrArg some (only _ a parsed)
    · rintro rc ⟨⟩
    · rintro _ ⟨⟩ huge
      exact absurd huge harmless

/-- `Transact` followed by a parser. -/
theorem signed_reply {α : Type} {T : Transport σ} {type : MessageType}
    {parse : NinePMessage → Option α} (only : ParsesOnly type parse) (proper : type ≠ .rlerror)
    (nonpositive : T.Nonpositive) (request : NinePMessage) (w : Link σ) :
    Signed type (w.received T request) (readReply parse (transact T request w).1) := by
  cases received : w.received T request with
  | none =>
    have failed := transact_unanswered nonpositive received
    rw [readReply, if_pos (Int32.ne_of_lt failed)]
    constructor
    · rintro a ⟨⟩
    · rintro rc ⟨⟩
      exact .inl failed
    · rintro bytes ⟨⟩
  | some bytes =>
    rw [transact_received received]
    cases kind : isRlerror (ofData bytes) with
    | none => exact signed_parsed only kind
    | some ecode => exact signed_rlerror only proper kind

/-! ### Calls that are answered at once -/

/-- The return code of a call that the server refuses. -/
def refusal (ecode : UInt32) : Int32 := if ecode = 0 then -eio else -ecode.toInt32

theorem toInt32_inj {a b : UInt32} : a.toInt32 = b.toInt32 ↔ a = b :=
  ⟨fun same => by simpa using congrArg Int32.toUInt32 same, congrArg UInt32.toInt32⟩

theorem refusal_eq_enoent {ecode : UInt32} : refusal ecode = -enoent ↔ ecode = 2 := by
  unfold refusal
  split
  · rename_i zero
    rw [zero]
    decide
  · rw [Int32.neg_inj, show enoent = (2 : UInt32).toInt32 from rfl, toInt32_inj]

theorem refusal_ne_zero (ecode : UInt32) : refusal ecode ≠ 0 := by
  unfold refusal
  split
  · decide
  · rename_i nonzero
    rw [← Int32.neg_zero]
    intro zero
    rw [Int32.neg_inj, show (0 : Int32) = (0 : UInt32).toInt32 from rfl, toInt32_inj] at zero
    exact nonzero zero

theorem readResponse_granted {α : Type} {parse : NinePMessage → Option α} {r : Response}
    {tag : UInt16} {a : α} (proper : r.type ≠ .rlerror)
    (parsed : parse (ofData (r.encode tag).data) = some a) :
    readReply parse (readResponse (r.encode tag).data) = .ok a := by
  rw [readResponse, isRlerror_encode r tag proper, readReply, if_neg (by simp)]
  simp only [parsed]

theorem readResponse_refused {α : Type} {parse : NinePMessage → Option α} {type : MessageType}
    (only : ParsesOnly type parse) (proper : type ≠ .rlerror) (ecode : UInt32) (tag : UInt16) :
    readReply parse (readResponse ((Response.rlerror ecode).encode tag).data) =
      .error (refusal ecode) := by
  rw [readResponse, isRlerror_encode_rlerror tag ecode, readReply, refusal]
  simp only
  by_cases zero : ecode = 0
  · -- `-0` does not stop the call; the parser then meets an Rlerror
    have rejected : parse (ofData ((Response.rlerror ecode).encode tag).data) = none := by
      cases parsed : parse (ofData ((Response.rlerror ecode).encode tag).data) with
      | none => rfl
      | some a =>
        have own := only _ a parsed
        rw [getType_of_header (m := ofData ((Response.rlerror ecode).encode tag).data)
          ((Response.rlerror ecode).encode_data tag)] at own
        exact absurd (MessageType.code_injective own).symm proper
    have success : -ecode.toInt32 = 0 := by
      rw [zero]
      rfl
    rw [if_neg (not_not_intro success), if_pos zero]
    simp only [rejected]
  · have nonzero := refusal_ne_zero ecode
    rw [refusal, if_neg zero] at nonzero
    rw [if_pos nonzero, if_neg zero]

/-- A call whose first exchange brings an Rlerror. -/
theorem call_rlerror {T : Transport σ} {α : Type} {build : UInt16 → NinePMessage} {w : Link σ}
    {parse : NinePMessage → Option α} {type : MessageType} (only : ParsesOnly type parse)
    (proper : type ≠ .rlerror) {ecode : UInt32}
    (answers : w.Answers T build (.rlerror ecode)) :
    Link.call T build parse w = (.error (refusal ecode), w.callOnce T build) := by
  rw [call_of_answers answers, readResponse_refused only proper ecode]

end Virtio9p
