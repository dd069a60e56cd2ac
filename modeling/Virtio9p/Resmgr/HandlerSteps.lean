import Virtio9p.Protocol.Steps
import Virtio9p.Resmgr.WriteChunks

/-!
# Handlers as runs of elementary steps

Every handler is a run of elementary session steps, provided the requests it makes may
be sent.
-/
namespace Virtio9p

variable {σ : Type}

/-- The requests of fixed size may be sent on any fid. -/
structure Serviceable (own : Bytes → Prop) (aname : Bytes) : Prop extends
    Restartable own aname where
  lopen : ∀ tag fid flags, own (buildTlopen tag fid flags).data
  getattr : ∀ tag fid, own (buildTgetattr tag fid getattrBasic).data
  clunk : ∀ tag fid, own (buildTclunk tag fid).data

section Handlers

variable {T : Transport σ} {own : Bytes → Prop} {aname : Bytes} (base : Serviceable own aname)
  {q : Qnx} {w : Link σ} (named : w.session.aname = aname)

include base named

theorem clunked_steps (fid : UInt32) : Link.Steps T own w (clunk T fid w).2 :=
  clunk_steps base.toRestartable fid (fun tag => base.clunk tag fid) named

theorem getAttr_steps (fid : UInt32) : Link.Steps T own w (getAttr T fid w).2 :=
  call_steps base.toRestartable (fun tag => buildTgetattr tag fid getattrBasic) _
    (base.getattr _ fid) named

theorem openFid_steps (fid flags : UInt32) : Link.Steps T own w (openFid T fid flags w).2 :=
  call_steps base.toRestartable (fun tag => buildTlopen tag fid flags) _ (base.lopen _ fid flags)
    named

theorem openOcb_steps (openDefault : UInt32 → UInt32 → Int32) (ioflag : UInt32)
    (data : Virtio9pOcb) (stat : NinePStat) :
    Link.Steps T own w (openOcb T q openDefault ioflag data stat w).2 := by
  unfold openOcb
  simp only
  split
  · exact clunked_steps base named data.fid
  · exact Relation.ReflTransGen.refl

theorem connectOpen_steps (openDefault : UInt32 → UInt32 → Int32) (msg : IoConnect)
    (walkable : Walkable own (openPath msg))
    (creatable : msg.ioflag &&& q.oCreat ≠ 0 → (splitParent (openPath msg)).2 ≠ [] →
      Walkable own (splitParent (openPath msg)).1 ∧ ∀ tag fid flags mode gid,
        own (buildTlcreate tag fid (splitParent (openPath msg)).2 flags mode gid).data) :
    Link.Steps T own w (connectOpen T q openDefault msg w).2 := by
  have walked := walk_steps (T := T) base.toRestartable walkable named
  unfold connectOpen
  simp only
  split
  · rename_i fid w₁ found
    rw [found] at walked
    refine steps_trans named walked fun named => ?_
    have opened := openFid_steps (T := T) base named fid (translateQnxToLinuxFlags q msg.ioflag)
    split
    · rename_i rc w₂ failed
      rw [failed] at opened
      exact steps_trans named opened fun named => clunked_steps base named fid
    · rename_i iounit w₂ done
      rw [done] at opened
      refine steps_trans named opened fun named => ?_
      refine steps_trans named (getAttr_steps base named fid) fun named => ?_
      exact openOcb_steps base named _ _ _ _
  · rename_i rc w₁ missing
    rw [missing] at walked
    refine steps_trans named walked fun named => ?_
    split
    · rename_i wanted
      have parent := walkParent_steps (T := T) base.toRestartable
        (fun nonempty => (creatable wanted.2 nonempty).1) named
      split
      · rename_i rc' w₂ failed
        rw [failed] at parent
        exact parent
      · rename_i parentFid basename w₂ found
        obtain ⟨rfl, nonempty, _⟩ := walkParent_ok found
        rw [found] at parent
        refine steps_trans named parent fun named => ?_
        have created := call_steps (T := T) base.toRestartable
          (fun tag => buildTlcreate tag parentFid (splitParent (openPath msg)).2
            (translateQnxToLinuxFlags q msg.ioflag ||| linuxOCreat) 0o644 0)
          (fun m => (parseRlcreate m).1) ((creatable wanted.2 nonempty).2 _ _ _ _ _) named
        change Link.Steps T own w₂ (create T parentFid _ _ _ _ w₂).2 at created
        split
        · rename_i rc' w₃ failed
          rw [failed] at created
          exact steps_trans named created fun named => clunked_steps base named parentFid
        · rename_i qid iounit w₃ done
          rw [done] at created
          exact steps_trans named created fun named => openOcb_steps base named _ _ _ _
    · exact Relation.ReflTransGen.refl

theorem connectMknod_steps (msg : IoConnect)
    (mkdirable : sIsdir msg.mode → (splitParent msg.path).2 ≠ [] →
      Walkable own (splitParent msg.path).1 ∧ ∀ tag dfid mode gid,
        own (buildTmkdir tag dfid (splitParent msg.path).2 mode gid).data) :
    Link.Steps T own w (connectMknod T msg w).2 := by
  unfold connectMknod
  split
  · exact Relation.ReflTransGen.refl
  · split
    · exact Relation.ReflTransGen.refl
    · rename_i directory
      have directory := not_not.mp directory
      have parent := walkParent_steps (T := T) base.toRestartable
        (fun nonempty => (mkdirable directory nonempty).1) named
      split
      · rename_i rc w₁ failed
        rw [failed] at parent
        exact parent
      · rename_i parentFid basename w₁ found
        obtain ⟨rfl, nonempty, _⟩ := walkParent_ok found
        rw [found] at parent
        have done : Link.Steps T own w (clunk T parentFid
            (mkdir T parentFid (splitParent msg.path).2 (msg.mode &&& 0o777) 0 w₁).2).2 := by
          refine steps_trans named parent fun named => ?_
          refine steps_trans named (call_steps base.toRestartable
            (fun tag => buildTmkdir tag parentFid (splitParent msg.path).2 (msg.mode &&& 0o777) 0)
            (fun m => (parseRmkdir m).1) ((mkdirable directory nonempty).2 _ _ _ _) named)
              fun named => ?_
          exact clunked_steps base named parentFid
        simp only
        split <;> exact done

theorem unlinkFlags_steps {path : Bytes} (walkable : Walkable own path) :
    Link.Steps T own w (unlinkFlags T path w).2 := by
  have walked := walk_steps (T := T) base.toRestartable walkable named
  unfold unlinkFlags
  split
  · rename_i rc w₁ failed
    rw [failed] at walked
    exact walked
  · rename_i targetFid w₁ found
    rw [found] at walked
    refine steps_trans named walked fun named => ?_
    refine steps_trans named (getAttr_steps base named targetFid) fun named => ?_
    exact clunked_steps base named targetFid

theorem connectUnlink_steps (msg : IoConnect)
    (unlinkable : (splitParent msg.path).2 ≠ [] →
      Walkable own (splitParent msg.path).1 ∧ Walkable own msg.path ∧ ∀ tag dirfid flags,
        own (buildTunlinkat tag dirfid (splitParent msg.path).2 flags).data) :
    Link.Steps T own w (connectUnlink T msg w).2 := by
  have parent := walkParent_steps (T := T) base.toRestartable
    (fun nonempty => (unlinkable nonempty).1) named
  unfold connectUnlink
  split
  · exact Relation.ReflTransGen.refl
  · split
    · rename_i rc w₁ failed
      rw [failed] at parent
      exact parent
    · rename_i parentFid basename w₁ found
      obtain ⟨rfl, nonempty, _⟩ := walkParent_ok found
      obtain ⟨_, walkable, unlinkable⟩ := unlinkable nonempty
      rw [found] at parent
      let flags := unlinkFlags T msg.path w₁
      have done : Link.Steps T own w (clunk T parentFid
          (unlink T parentFid (splitParent msg.path).2 flags.1 flags.2).2).2 := by
        refine steps_trans named parent fun named => ?_
        refine steps_trans named (unlinkFlags_steps base named walkable) fun named => ?_
        refine steps_trans named (call_steps base.toRestartable
          (fun tag => buildTunlinkat tag parentFid (splitParent msg.path).2 flags.1)
          (fun m => (parseRunlinkat m).1) (unlinkable _ _ _) named) fun named => ?_
        exact clunked_steps base named parentFid
      simp only
      split <;> exact done

theorem connectRename_steps (msg : IoRename)
    (walkable : (splitParent msg.path).2 ≠ [] → Walkable own (splitParent msg.path).1)
    (renamable : (splitParent msg.path).2 ≠ [] → (splitParent msg.newPath).2 ≠ [] →
      Walkable own (splitParent msg.newPath).1 ∧ ∀ tag olddirfid newdirfid,
        own (buildTrenameat tag olddirfid (splitParent msg.path).2 newdirfid
          (splitParent msg.newPath).2).data) :
    Link.Steps T own w (connectRename T msg w).2 := by
  have parent := walkParent_steps (T := T) base.toRestartable walkable named
  unfold connectRename
  split
  · exact Relation.ReflTransGen.refl
  · split
    · rename_i rc w₁ failed
      rw [failed] at parent
      exact parent
    · rename_i oldParentFid oldBasename w₁ found
      obtain ⟨rfl, nonempty, _⟩ := walkParent_ok found
      rw [found] at parent
      refine steps_trans named parent fun named => ?_
      have newParent := walkParent_steps (T := T) base.toRestartable
        (fun newNonempty => (renamable nonempty newNonempty).1) named
      split
      · rename_i rc w₂ failed
        rw [failed] at newParent
        exact steps_trans named newParent fun named => clunked_steps base named oldParentFid
      · rename_i newParentFid newBasename w₂ found'
        obtain ⟨rfl, newNonempty, _⟩ := walkParent_ok found'
        rw [found'] at newParent
        have done : Link.Steps T own w₁ (clunk T newParentFid (clunk T oldParentFid
            (rename T oldParentFid (splitParent msg.path).2 newParentFid
              (splitParent msg.newPath).2 w₂).2).2).2 := by
          refine steps_trans named newParent fun named => ?_
          refine steps_trans named (call_steps base.toRestartable
            (fun tag => buildTrenameat tag oldParentFid (splitParent msg.path).2 newParentFid
              (splitParent msg.newPath).2) (fun m => (parseRrenameat m).1)
            ((renamable nonempty newNonempty).2 _ _ _) named)
            fun named => ?_
          refine steps_trans named (clunked_steps base named oldParentFid) fun named => ?_
          exact clunked_steps base named newParentFid
        simp only
        split <;> exact done

theorem ioRead_steps (msg : IoRead) (ocb : ExtOcb)
    (readable : msg.verify = eok → ∀ tag,
      own (buildTread tag ocb.data.fid ocb.data.offset msg.nbytes).data ∧
        own (buildTreaddir tag ocb.data.fid ocb.data.offset msg.nbytes).data) :
    Link.Steps T own w (ioRead T q msg ocb w).2 := by
  unfold ioRead
  split
  · exact Relation.ReflTransGen.refl
  · rename_i verified
    have readable := readable (not_not.mp verified)
    have readSteps := read_steps (T := T) base.toRestartable (fun tag => (readable tag).1) named
    have listSteps := readDir_steps (T := T) base.toRestartable (fun tag => (readable tag).2) named
    split
    · split
      · rename_i w₁ result
        rw [result] at listSteps
        exact listSteps
      · rename_i rc w₁ result
        rw [result] at listSteps
        exact listSteps
      · rename_i entries w₁ result
        rw [result] at listSteps
        simp only
        split <;> exact listSteps
    · split
      · rename_i w₁ result
        rw [result] at readSteps
        exact readSteps
      · rename_i count bytes w₁ result
        rw [result] at readSteps
        split
        · exact readSteps
        · split <;> exact readSteps

theorem ioStat_steps (q : Qnx) (ocb : ExtOcb) : Link.Steps T own w (ioStat T q ocb w).2 := by
  have attr := getAttr_steps (T := T) base named ocb.data.fid
  unfold ioStat
  split
  · rename_i rc w₁ result
    rw [result] at attr
    exact attr
  · rename_i stat w₁ result
    rw [result] at attr
    exact attr

theorem writeLoop_steps {msg : IoWrite} {plan : WritePlan}
    (writable : ∀ tag offset buf, buf.length ≤ min plan.nbytes.toNat plan.chunkSize.toNat →
      own (buildTwrite tag plan.fid offset buf (UInt32.ofNat buf.length)).data)
    (fuel round : Nat) (totalWritten : UInt32) :
    Link.Steps T own w (writeLoop T msg plan fuel round totalWritten w).2 := by
  induction fuel generalizing round totalWritten w with
  | zero =>
    rw [writeLoop]
    split <;> exact Relation.ReflTransGen.refl
  | succ fuel ih =>
    rw [writeLoop]
    split
    · rename_i started
      split
      · exact Relation.ReflTransGen.refl
      · rename_i buf chunk
        have bound : buf.length ≤ min plan.nbytes.toNat plan.chunkSize.toNat := by
          have size := writeChunk_length chunk (UInt32.le_of_lt started)
          unfold chunkLength at size
          omega
        have sent := write_steps (T := T) base.toRestartable
          (fun tag => writable tag (plan.offset + totalWritten.toUInt64) buf bound) named
        simp only
        split
        · exact sent
        · split
          · exact sent
          · exact steps_trans named sent fun named => ih named _ _
    · exact Relation.ReflTransGen.refl

theorem ioWrite_steps (fuel : Nat) (msg : IoWrite) (ocb : ExtOcb)
    (writable : msg.verify = eok → msg.xtype ≠ .other → ∀ tag offset buf,
      buf.length ≤ min msg.nbytes.toNat (chunkSize ocb).toNat →
        own (buildTwrite tag ocb.data.fid offset buf (UInt32.ofNat buf.length)).data) :
    Link.Steps T own w (ioWrite T q fuel msg ocb w).2 := by
  unfold ioWrite
  split
  · exact Relation.ReflTransGen.refl
  · rename_i verified
    split
    · exact Relation.ReflTransGen.refl
    · split
      · exact Relation.ReflTransGen.refl
      · rename_i plan planned
        have known : msg.xtype ≠ .other := by
          intro other
          rw [writePlan, other] at planned
          cases planned
        have writable := writable (not_not.mp verified) known
        have ours := writePlan_same planned
        have sent : Link.Steps T own w (writeLoop T msg plan fuel 0 0 w).2 :=
          writeLoop_steps base named (by rw [ours.1, ours.2.1, ours.2.2]; exact writable) fuel 0 0
        split
        · rename_i w₁ result
          rw [result] at sent
          exact sent
        · rename_i errno w₁ result
          rw [result] at sent
          exact sent
        · rename_i total w₁ result
          rw [result] at sent
          exact sent

end Handlers

end Virtio9p
