import Virtio9p.Properties.MountLoop
import Virtio9p.Server.RingService

/-!
# What is mounted

The clients of the mount point, from the start of the machine on: what they are answered is what the
handlers would answer with the mounted file service at hand, and what their calls are meant to be
answered where they are served like that.
-/
namespace Virtio9p

open FileService

/-- The message of a client. -/
def BootEvent.message : BootEvent → Option Call
  | .child (.message call) => some call
  | .earlier _ (.message call) => some call
  | _ => none

section Asked

variable {σ : Type} {D : TransportService σ} {q : Qnx} {config : FsConfig}

theorem Child.take_asked {number : Nat} {reads : Bool} {e : ChildEvent} {c : Child σ}
    {answer : Call × Reply} (answered : (c.take D q number config reads e).1 = some answer) :
    e = .message answer.1 := by
  cases e with
  | step ok => cases answered
  | crash => cases answered
  | message call =>
    cases c with
    | serving d =>
      cases answered
      rfl
    | begun | privileged | reported _ | ended _ => cases answered
    | initialized _ | tagged _ _ | session _ | dispatching _ | attached _ | reporting _ =>
      cases answered

theorem Daemon.childEvent_asked {e : ChildEvent} {a : Daemon σ} {answer : Call × Reply}
    (answered : (a.childEvent D q config e).1 = some answer) : e = .message answer.1 := by
  unfold Daemon.childEvent at answered
  split at answered
  · cases answered
  · exact Child.take_asked answered

theorem bootLoop_asked {args : List Bytes} (e : BootEvent) (b : Boot σ) (answer : Call × Reply)
    (answered : ((bootLoop D q args).step e b).1 = some answer) : e.message = some answer.1 := by
  cases e with
  | parent ok => cases answered
  | child e =>
    rw [Daemon.childEvent_asked answered]
    rfl
  | earlier i e =>
    simp only [bootLoop] at answered
    split at answered
    · cases answered
    · rw [Daemon.childEvent_asked answered]
      rfl
  | shell =>
    simp only [bootLoop] at answered
    split at answered
    · split_ifs at answered
    · cases answered

end Asked

variable {σ ν φ : Type}

/-- An attach that is refused is no success. -/
theorem hosted_error_neg {α : Type} {x : Attempt φ Ecode α} {s s' : φ} {errno : Int32}
    (refused : hosted x s = (.error errno, s')) : -errno ≠ 0 := by
  unfold hosted Attempt.fold at refused
  split at refused
  · cases refused
  · rename_i ecode _ _
    cases refused
    obtain ⟨code, negative⟩ := refused_ecode ecode
    rw [← code]
    intro zero
    rw [zero] at negative
    exact Int32.lt_irrefl negative

/-- All that the clients of the mount point are answered, among mounts that fail and drivers that
end, is answered as by the file service that one of the drivers attached to. -/
def MountedTransparent (D : TransportService σ) (f : FileService ν φ) (view : σ → ServiceState ν φ)
    (q : Qnx) (args : List Bytes) (events : List BootEvent) : Prop :=
  let answers := ((bootLoop D q args).run events (Boot.start args)).1.filterMap id
  answers = [] ∨ ∃ number s root qid files,
    D.initializeTransport number (createTransport (mountConfig args)) = .ok s ∧
    hosted (f.attach (D.mountTag s)) (view s).files = (.ok (root, qid), files) ∧
    answers.map Prod.snd = ((f.direct q).run (answers.map Prod.fst) ⟨root, files, []⟩).1 ∧
    (f.Ordinary → ∀ asked, asked.map ClientCall.call = answers.map Prod.fst →
      (f.intended q).Meets (ServedAsMeant f q) asked ⟨root, files, []⟩ →
        answers.map Prod.snd = ((f.intended q).run asked ⟨root, files, []⟩).1)

theorem mounted_of_provides {D : TransportService σ} {f : FileService ν φ}
    {view : σ → ServiceState ν φ} (provides : D.transport.Provides f view) (q : Qnx)
    (args : List Bytes) (events : List BootEvent)
    (counted : ∀ call ∈ events.filterMap BootEvent.message, call.Counted)
    (few : ((events.filterMap BootEvent.message).map Call.walks).sum + 1 < 2 ^ 32) :
    MountedTransparent D f view q args events := by
  unfold MountedTransparent
  intro answers
  rcases Boot.run_answers D q args events with none |
    ⟨number, w, ⟨s, initialized, started⟩, replies⟩
  · exact .inl none
  · right
    have given : (answers.map Prod.fst).Sublist (events.filterMap BootEvent.message) :=
      Life.answered_sublist bootLoop_asked events (Boot.start args)
    have short : (D.mountTag s).length < 2 ^ 16 :=
      Nat.lt_of_le_of_lt (D.mountTag_short s) (by decide)
    have fewer : ((answers.map Prod.fst).map Call.walks).sum + 1 < 2 ^ 32 := by
      have less := (given.map Call.walks).sum_le_sum (by simp)
      omega
    -- whatever the messages that the calls came in
    let unread : List ClientCall := (answers.map Prod.fst).map fun call => ⟨call, fun _ => 0⟩
    have calls : unread.map ClientCall.call = answers.map Prod.fst := by
      rw [List.map_map]
      exact List.map_id _
    have transparent := transparent_of_provides provides short s (q := q)
      (fun call member => counted call (given.subset (calls ▸ member))) (calls ▸ fewer)
    rw [Transparent, started] at transparent
    simp only [calls] at transparent
    cases attached : hosted (f.attach (D.mountTag s)) (view s).files with
    | mk result files =>
      rw [attached] at transparent
      cases result with
      | error errno => exact absurd transparent.symm (hosted_error_neg attached)
      | ok made =>
        obtain ⟨root, qid⟩ := made
        obtain ⟨-, ⟨same, -⟩, -⟩ := transparent
        refine ⟨number, s, root, qid, files, initialized, attached, replies.trans same, ?_⟩
        intro ordinary asked those served
        have meant := run_meant ordinary served
        rw [those] at meant
        exact (replies.trans same).trans (congrArg Prod.fst meant)

/-- Mounted on the rings, with devices that serve each request before they raise their interrupt. -/
theorem mounted_rings_transparent (f : FileService ν φ) (machine : RingMachine (ServiceState ν φ))
    {plan : Nat → Window} (prompt : ∀ n, (plan n).Prompt) (resets : Nat → SetupOutcome) (q : Qnx)
    (args : List Bytes) (events : List BootEvent)
    (counted : ∀ call ∈ events.filterMap BootEvent.message, call.Counted)
    (few : ((events.filterMap BootEvent.message).map Call.walks).sum + 1 < 2 ^ 32) :
    MountedTransparent (ringService machine f.serveBytes prompt resets) f MountedRings.server q args
      events :=
  mounted_of_provides (ringService_provides prompt resets f machine) q args events counted few

end Virtio9p
