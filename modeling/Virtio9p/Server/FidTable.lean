import Mathlib.Logic.Function.Basic
import Virtio9p.Protocol.Calls

/-!
# Fid tables on the server

A server binds fids to its objects. What it does to this table when the device is reset
and when a session starts decides what a re-initialization leaves of it.
-/
namespace Virtio9p

open NinePMessage

variable {σ Obj : Type}

/-- The object that each fid is bound to. -/
abbrev FidTable (Obj : Type) := UInt32 → Option Obj

namespace FidTable

def empty : FidTable Obj := fun _ => none

/-- Only `fid` is bound. -/
def single (fid : UInt32) (object : Obj) : FidTable Obj := Function.update empty fid (some object)

@[simp] theorem single_self (fid : UInt32) (object : Obj) : single fid object fid = some object :=
  Function.update_self ..

theorem single_eq_some {fid fid' : UInt32} {object object' : Obj}
    (bound : single fid object fid' = some object') : fid' = fid ∧ object' = object := by
  by_cases same : fid' = fid
  · subst same
    rw [single_self] at bound
    exact ⟨rfl, (Option.some.inj bound).symm⟩
  · rw [single, Function.update_of_ne same] at bound
    cases bound

/-- The fids that are bound. -/
def bound (table : FidTable Obj) : Set UInt32 := {fid | table fid ≠ none}

@[simp] theorem mem_bound {table : FidTable Obj} {fid : UInt32} :
    fid ∈ table.bound ↔ table fid ≠ none := Iff.rfl

theorem bound_single (fid : UInt32) (object : Obj) : (single fid object).bound = {fid} := by
  ext fid'
  by_cases same : fid' = fid
  · subst same
    simp
  · simp [single, empty, same]

end FidTable

/-- The message type of an Rattach. -/
def isRattach (responseData : Bytes) : Bool :=
  (ofData responseData).getType = MessageType.rattach.code

/-- A server that drops every fid on a device reset and on Tversion. A failing exchange
has reset the device, and an Rattach binds the fid to the root of the attach name. -/
structure Transport.DropsFids (T : Transport σ) (table : σ → FidTable Obj) (root : Bytes → Obj) :
    Prop where
  reset : ∀ s request, (T.exchange request s).1.1 ≠ 0 →
    table (T.exchange request s).2 = FidTable.empty
  version : ∀ s, (T.exchange versionRequest.data s).1.1 = 0 →
    table (T.exchange versionRequest.data s).2 = FidTable.empty
  attach : ∀ s aname tag fid,
    let answer := T.exchange (attachRequest aname tag fid).data s
    answer.1.1 = 0 → table answer.2 =
      if isRattach answer.1.2 then Function.update (table s) fid (some (root aname)) else table s

/-! ### What a re-initialization leaves -/

section Reinitialized

variable {T : Transport σ}

theorem readReply_error {α : Type} {parse : NinePMessage → Option α} {reply : Int32 × NinePMessage}
    {rc : Int32} (failed : readReply parse reply = .error rc) : rc ≠ 0 := by
  unfold readReply at failed
  split at failed
  · -- `Transact` has failed
    rename_i code
    cases failed
    exact code
  · split at failed
    · cases failed
      decide
    · cases failed

theorem acceptVersion_error {reply : Int32 × NinePMessage} {rc : Int32}
    (failed : acceptVersion reply = .error rc) : rc ≠ 0 := by
  unfold acceptVersion at failed
  split at failed
  · rename_i read
    cases failed
    exact readReply_error read
  · split at failed
    · cases failed
      decide
    · cases failed

theorem Link.answer_zero {request : NinePMessage} {w : Link σ}
    (zero : (w.answer T request).1 = 0) : w.exchangeCode T request = 0 ∧
      (w.answer T request).2 = ofData (T.exchange request.data w.transport).1.2 := by
  unfold Link.answer at zero ⊢
  split
  · rename_i code
    rw [if_pos code] at zero
    exact absurd zero code
  · rename_i code
    refine ⟨not_not.mp code, ?_⟩
    unfold readResponse
    split <;> rfl

theorem parsePayload_some {α : Type} {type : MessageType} {decoder : Decoder α} {m : NinePMessage}
    {a : α} (parsed : (parsePayload type decoder m).1 = some a) : m.getType = type.code := by
  by_contra other
  rw [parsePayload, if_pos other] at parsed
  cases parsed

/-- The session and the server after a successful `Reinitialize`: the root has fid 0, and
nothing else is left. -/
structure Link.Fresh (table : σ → FidTable Obj) (object : Obj) (aname : Bytes) (w : Link σ) :
    Prop where
  allocated : w.session.fidPool.allocated = {0}
  rootFid : w.session.rootFid = 0
  aname : w.session.aname = aname
  outer : w.session.reinitializing = false
  bound : table w.transport = FidTable.single 0 object

/-- Both exchanges of a successful `Reinitialize` succeed, and the second is answered with
an Rattach. -/
theorem reinitializeSession_done {w : Link σ} (done : (reinitializeSession T w).1 = 0) :
    let restarted : Link σ := { w with session := w.session.restarted }
    let agreed := restarted.exchanged T versionRequest
    let request := attachRequest w.session.aname 0 0
    restarted.exchangeCode T versionRequest = 0 ∧ agreed.exchangeCode T request = 0 ∧
      isRattach (T.exchange request.data agreed.transport).1.2 = true ∧
      (reinitializeSession T w).2.transport = (agreed.exchanged T request).transport ∧
      ∃ size, (reinitializeSession T w).2.session =
        (agreed.session.setUp size).takeTag.2.resumed := by
  intro restarted agreed request
  have once := reinitializeSession_once (T := T) w
  simp only at once
  rw [once] at done ⊢
  simp only [Link.initializedOnce] at done ⊢
  split at done
  · rename_i rc failed
    exact absurd done (acceptVersion_error failed)
  · rename_i size accepted
    split at done
    · rename_i rc failed
      exact absurd done (readReply_error failed)
    · rename_i qid read
      -- a response of the right type takes an exchange that succeeds
      obtain ⟨versionCode, _⟩ := acceptVersion_ok accepted
      obtain ⟨attachCode, parsed⟩ := readReply_ok read
      obtain ⟨version, _⟩ := Link.answer_zero versionCode
      obtain ⟨attach, response⟩ := Link.answer_zero attachCode
      rw [response] at parsed
      exact ⟨version, attach, decide_eq_true (parsePayload_some parsed), rfl, size, rfl⟩

theorem reinitializeSession_fresh {table : σ → FidTable Obj} {root : Bytes → Obj}
    (drops : T.DropsFids table root) {w : Link σ} (done : (reinitializeSession T w).1 = 0) :
    (reinitializeSession T w).2.Fresh table (root w.session.aname) w.session.aname := by
  obtain ⟨version, attach, accepted, transport, size, session⟩ := reinitializeSession_done done
  -- Tversion drops all fids, and Tattach binds fid 0
  have dropped : table (T.exchange versionRequest.data w.transport).2 = FidTable.empty :=
    drops.version w.transport version
  have bound := drops.attach (T.exchange versionRequest.data w.transport).2
    w.session.aname 0 0 attach
  rw [dropped] at bound
  constructor
  · rw [session]
    rfl
  · rw [session]
    rfl
  · rw [session]
    rfl
  · rw [session]
    rfl
  · rw [transport]
    exact bound.trans (if_pos accepted)

end Reinitialized

end Virtio9p
