import Virtio9p.Protocol.CallDepth

/-!
# The recursion of the session

`Transact`, `Reinitialize` and `Initialize` call each other, and every call ends: there is one
re-initialization at a time, and the number of exchanges has a bound.
-/
namespace Virtio9p

variable {σ : Type}

/-- Between an outermost call and its return `Reinitialize` is open at most once at a time and
left at the end, and there are at most `exchanges` exchanges. -/
structure EndsAlone (w w' : Traced σ) (exchanges : Nat) : Prop where
  resumed : w'.reinitializing = false
  events : ∃ events, w'.trace = w.trace ++ events ∧ events.count .exchange ≤ exchanges ∧
    events.foldlM Event.after false = some false

theorem Returned.endsAlone {w w' : Traced σ} {n m : Nat} (returned : Returned w w' n)
    (outside : w.reinitializing = false) (le : n ≤ m) : EndsAlone w w' m := by
  obtain ⟨flag, events, trace, count, alone⟩ := returned.mono le
  exact ⟨flag.trans outside, events, trace, count, outside ▸ alone⟩

/-- Whatever the transport answers, an outermost `Transact` or `Initialize` returns with no third
`Transact` open inside it, after at most 9 or 16 exchanges. -/
theorem recursion_ends (T : Transport σ) (request : NinePMessage) (aname : Bytes) (depth : Nat)
    {w : Traced σ} (outside : w.reinitializing = false) :
    (∃ w', Traced.transact T (depth + 2) request w = some ((transact T request w.link).1, w') ∧
      w'.link = (transact T request w.link).2 ∧ EndsAlone w w' 9) ∧
    (∃ w', Traced.initializeSession T (depth + 2) aname w =
        some ((initializeSession T aname w.link).1, w') ∧
      w'.link = (initializeSession T aname w.link).2 ∧ EndsAlone w w' 16) := by
  constructor
  · obtain ⟨w', result, link, returned⟩ := transact_agrees depth request w outside
    exact ⟨w', result, link, returned.endsAlone outside (Nat.sub_le ..)⟩
  · obtain ⟨w', result, link, returned⟩ := initialize_agrees depth aname w outside
    exact ⟨w', result, link, returned.endsAlone outside le_rfl⟩

/-- A transport that fails each third time, on a new session. -/
theorem recursion_ends_third :
    let T : Transport (List Bytes) := ⟨fun request history =>
      ((if history.length % 3 = 2 then -eio else 0, [8, 0, 0, 0]), history ++ [request])⟩
    let w : Traced (List Bytes) := ⟨⟨NinePSession.new, [], []⟩, []⟩
    (∃ w', Traced.transact T 2 versionRequest w = some ((transact T versionRequest w.link).1, w') ∧
      w'.link = (transact T versionRequest w.link).2 ∧ EndsAlone w w' 9) ∧
    (∃ w', Traced.initializeSession T 2 [] w = some ((initializeSession T [] w.link).1, w') ∧
      w'.link = (initializeSession T [] w.link).2 ∧ EndsAlone w w' 16) :=
  recursion_ends _ versionRequest [] 0 rfl

end Virtio9p
