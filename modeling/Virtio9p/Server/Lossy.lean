import Virtio9p.Server.FidTable

/-!
# Lossy transports

A transport that loses requests and responses as a script says, and resets the device
when it does.
-/
namespace Virtio9p

variable {σ Obj : Type}

/-- What becomes of an exchange. -/
inductive Fate where
  | delivered | requestLost | responseLost
  deriving DecidableEq, Repr

/-- The exchanges after the end of the script are delivered. -/
def Transport.lossy (T : Transport σ) (reset : σ → σ) : Transport (List Fate × σ) where
  exchange request s :=
    match s.1 with
    | .requestLost :: fates => ((-eio, []), (fates, reset s.2))
    | .responseLost :: fates => ((-eio, []), (fates, reset (T.exchange request s.2).2))
    | fates => ((T.exchange request s.2).1, (fates.tail, (T.exchange request s.2).2))

section Lossy

variable {T : Transport σ} {reset : σ → σ}

/-- An exchange that fails was lost, or it failed before; in any other case the server was
reached. -/
theorem lossy_exchange (T : Transport σ) (reset : σ → σ) (request : Bytes) (s : List Fate × σ) :
    (((T.lossy reset).exchange request s).1.1 ≠ 0 ∧
      (((T.lossy reset).exchange request s).2.2 = reset s.2 ∨
        ((T.lossy reset).exchange request s).2.2 = reset (T.exchange request s.2).2)) ∨
    ((T.lossy reset).exchange request s).1 = (T.exchange request s.2).1 ∧
      ((T.lossy reset).exchange request s).2.2 = (T.exchange request s.2).2 := by
  have failed : (-eio : Int32) ≠ 0 := by decide
  obtain ⟨fates, s⟩ := s
  cases fates with
  | nil => exact Or.inr ⟨rfl, rfl⟩
  | cons fate fates =>
    cases fate with
    | delivered => exact Or.inr ⟨rfl, rfl⟩
    | requestLost => exact Or.inl ⟨failed, Or.inl rfl⟩
    | responseLost => exact Or.inl ⟨failed, Or.inr rfl⟩

theorem Transport.DropsFids.lossy {table : σ → FidTable Obj} {root : Bytes → Obj}
    (drops : T.DropsFids table root) (cleared : ∀ s, table (reset s) = FidTable.empty) :
    (T.lossy reset).DropsFids (fun s => table s.2) root where
  reset s request failed := by
    rcases lossy_exchange T reset request s with ⟨_, lost | lost⟩ | ⟨answer, same⟩
    · rw [lost]
      exact cleared _
    · rw [lost]
      exact cleared _
    · rw [same]
      exact drops.reset s.2 request (answer ▸ failed)
  version s ok := by
    rcases lossy_exchange T reset versionRequest.data s with
      ⟨failed, _⟩ | ⟨answer, same⟩
    · exact absurd ok failed
    · rw [same]
      exact drops.version s.2 (answer ▸ ok)
  attach s aname tag fid := by
    intro result ok
    rcases lossy_exchange T reset (attachRequest aname tag fid).data s with
      ⟨failed, _⟩ | ⟨answer, same⟩
    · exact absurd ok failed
    · have attached := drops.attach s.2 aname tag fid (answer ▸ ok)
      change table ((T.lossy reset).exchange (attachRequest aname tag fid).data s).2.2 =
        if isRattach ((T.lossy reset).exchange (attachRequest aname tag fid).data s).1.2 then _
        else _
      rw [same, answer]
      exact attached

end Lossy

end Virtio9p
