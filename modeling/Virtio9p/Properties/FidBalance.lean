import Virtio9p.Resmgr.Handlers
import Virtio9p.Server.Balance
import Virtio9p.Server.FidServer

/-!
# No handler leaks a fid

Between handlers the fids in use are the root and those of the open OCBs, in the pool
and on the server.
-/
namespace Virtio9p

open NinePMessage

variable {σ Obj : Type}

section Handlers

variable {T : Transport σ} {table : σ → FidTable Obj} {root : Bytes → Obj}
  (conforms : T.Conforms table root) {q : Qnx} {held : List UInt32} {w : Link σ}
  (balanced : Balanced table held w)

include conforms balanced

/-! ### Operations on held fids -/

theorem getAttr_balanced (fid : UInt32) : Balanced table held (getAttr T fid w).2 :=
  call_balanced conforms balanced (fun tag => buildTgetattr tag fid getattrBasic) _
    (.tgetattr fid getattrBasic) rfl rfl

theorem openFid_balanced (fid flags : UInt32) : Balanced table held (openFid T fid flags w).2 :=
  call_balanced conforms balanced (fun tag => buildTlopen tag fid flags) _ (.tlopen fid flags) rfl
    rfl

theorem create_balanced (fid : UInt32) (name : Bytes) (flags mode gid : UInt32) :
    Balanced table held (create T fid name flags mode gid w).2 :=
  call_balanced conforms balanced (fun tag => buildTlcreate tag fid name flags mode gid) _
    (.tlcreate fid name flags mode gid) rfl rfl

theorem mkdir_balanced (fid : UInt32) (name : Bytes) (mode gid : UInt32) :
    Balanced table held (mkdir T fid name mode gid w).2 :=
  call_balanced conforms balanced (fun tag => buildTmkdir tag fid name mode gid) _
    (.tmkdir fid name mode gid) rfl rfl

theorem unlink_balanced (fid : UInt32) (name : Bytes) (flags : UInt32) :
    Balanced table held (unlink T fid name flags w).2 :=
  call_balanced conforms balanced (fun tag => buildTunlinkat tag fid name flags) _
    (.tunlinkat fid name flags) rfl rfl

theorem rename_balanced (oldFid : UInt32) (oldName : Bytes) (newFid : UInt32) (newName : Bytes) :
    Balanced table held (rename T oldFid oldName newFid newName w).2 :=
  call_balanced conforms balanced (fun tag => buildTrenameat tag oldFid oldName newFid newName) _
    (.trenameat oldFid oldName newFid newName) rfl rfl

theorem read_balanced (fid : UInt32) (offset : UInt64) (count : UInt32) :
    Balanced table held (read T fid offset count w).2 := by
  have called := call_balanced conforms balanced (fun tag => buildTread tag fid offset count)
    (markFault parseRread) (.tread fid offset count) rfl rfl
  unfold read
  simp only
  split <;> exact called

theorem readDir_balanced (fid : UInt32) (offset : UInt64) (count : UInt32) :
    Balanced table held (readDir T fid offset count w).2 := by
  have called := call_balanced conforms balanced (fun tag => buildTreaddir tag fid offset count)
    (markFault (parseRreaddir [])) (.treaddir fid offset count) rfl rfl
  unfold readDir
  simp only
  split <;> exact called

theorem write_balanced (fid : UInt32) (offset : UInt64) (data : Bytes) :
    Balanced table held (write T fid offset data (UInt32.ofNat data.length) w).2 := by
  have called := call_balanced conforms balanced
    (fun tag => buildTwrite tag fid offset data (UInt32.ofNat data.length))
    (fun m => (parseRwrite m).1) (.twrite fid offset data) rfl rfl
  unfold write
  simp only
  split <;> exact called

/-! ### Connect handlers -/

omit balanced in
/-- The OCB takes the fid over, or the fid is clunked. -/
theorem openOcb_balanced {data : Virtio9pOcb} (balanced : Balanced table (data.fid :: held) w)
    (openDefault : UInt32 → UInt32 → Int32) (ioflag : UInt32) (stat : NinePStat) :
    Balanced table
      (((openOcb T q openDefault ioflag data stat w).1.2.toList.map fun ocb =>
        ocb.data.fid) ++ held)
      (openOcb T q openDefault ioflag data stat w).2 := by
  unfold openOcb
  simp only
  split
  · exact clunk_balanced conforms balanced
  · exact balanced

theorem connectOpen_balanced (openDefault : UInt32 → UInt32 → Int32) (msg : IoConnect) :
    Balanced table
      (((connectOpen T q openDefault msg w).1.2.toList.map fun ocb => ocb.data.fid) ++ held)
      (connectOpen T q openDefault msg w).2 := by
  have short : ShortPath (openPath msg) := by
    unfold openPath
    split
    · exact Nat.le_of_ble_eq_true rfl
    · exact msg.received
  unfold connectOpen
  simp only
  split
  · rename_i fid w₁ found
    have walked : Balanced table (fid :: held) w₁ := walk_result conforms short balanced found
    have opened := openFid_balanced conforms walked fid (translateQnxToLinuxFlags q msg.ioflag)
    split
    · rename_i rc w₂ failed
      rw [failed] at opened
      exact clunk_balanced conforms opened
    · rename_i iounit w₂ done
      rw [done] at opened
      exact openOcb_balanced conforms (getAttr_balanced conforms opened fid) openDefault _ _
  · rename_i rc w₁ missing
    have walked : Balanced table held w₁ := walk_result conforms short balanced missing
    split
    · -- the server has no such file, and the client wants one
      split
      · rename_i rc' w₂ failed
        exact walkParent_result conforms short walked failed
      · rename_i parentFid basename w₂ found
        have parent : Balanced table (parentFid :: held) w₂ :=
          walkParent_result conforms short walked found
        have created := create_balanced conforms parent parentFid basename
          (translateQnxToLinuxFlags q msg.ioflag ||| linuxOCreat) 0o644 0
        split
        · rename_i rc' w₃ failed
          rw [failed] at created
          exact clunk_balanced conforms created
        · rename_i qid iounit w₃ done
          rw [done] at created
          exact openOcb_balanced conforms created openDefault _ _
    · exact walked

theorem connectMknod_balanced (msg : IoConnect) :
    Balanced table held (connectMknod T msg w).2 := by
  unfold connectMknod
  split
  · exact balanced
  · split
    · exact balanced
    · split
      · rename_i rc w₁ failed
        exact walkParent_result conforms msg.received balanced failed
      · rename_i parentFid basename w₁ found
        have parent : Balanced table (parentFid :: held) w₁ :=
          walkParent_result conforms msg.received balanced found
        have made := mkdir_balanced conforms parent parentFid basename (msg.mode &&& 0o777) 0
        have done := clunk_balanced conforms made
        simp only
        split <;> exact done

theorem unlinkFlags_balanced {path : Bytes} (short : ShortPath path) :
    Balanced table held (unlinkFlags T path w).2 := by
  unfold unlinkFlags
  split
  · rename_i rc w₁ failed
    exact walk_result conforms short balanced failed
  · rename_i targetFid w₁ found
    have target : Balanced table (targetFid :: held) w₁ :=
      walk_result conforms short balanced found
    exact clunk_balanced conforms (getAttr_balanced conforms target targetFid)

theorem connectUnlink_balanced (msg : IoConnect) :
    Balanced table held (connectUnlink T msg w).2 := by
  unfold connectUnlink
  split
  · exact balanced
  · split
    · rename_i rc w₁ failed
      exact walkParent_result conforms msg.received balanced failed
    · rename_i parentFid basename w₁ found
      have parent : Balanced table (parentFid :: held) w₁ :=
        walkParent_result conforms msg.received balanced found
      have flagged := unlinkFlags_balanced conforms parent msg.received
      have unlinked := unlink_balanced conforms flagged parentFid basename
        (unlinkFlags T msg.path w₁).1
      have done := clunk_balanced conforms unlinked
      simp only
      split <;> exact done

theorem connectRename_balanced (msg : IoRename) :
    Balanced table held (connectRename T msg w).2 := by
  have received := msg.received
  have short : ShortPath msg.path := by
    unfold ShortPath
    omega
  have newShort : ShortPath msg.newPath := by
    unfold ShortPath
    omega
  unfold connectRename
  split
  · exact balanced
  · split
    · rename_i rc w₁ failed
      exact walkParent_result conforms short balanced failed
    · rename_i oldParentFid oldBasename w₁ found
      have oldParent : Balanced table (oldParentFid :: held) w₁ :=
        walkParent_result conforms short balanced found
      split
      · -- the old parent is clunked
        rename_i rc w₂ failed
        exact clunk_balanced conforms (walkParent_result conforms newShort oldParent failed)
      · rename_i newParentFid newBasename w₂ found'
        have both : Balanced table (newParentFid :: oldParentFid :: held) w₂ :=
          walkParent_result conforms newShort oldParent found'
        have renamed := rename_balanced conforms both oldParentFid oldBasename newParentFid
          newBasename
        -- the old parent is clunked first
        have swapped := renamed.perm (List.Perm.swap oldParentFid newParentFid held)
        have done := clunk_balanced conforms (clunk_balanced conforms swapped)
        simp only
        split <;> exact done

/-! ### I/O handlers -/

theorem ioRead_balanced (msg : IoRead) (ocb : ExtOcb) :
    Balanced table held (ioRead T q msg ocb w).2 ∧
      (ioRead T q msg ocb w).1.2.data.fid = ocb.data.fid := by
  refine ⟨?_, (ioRead_same T q msg ocb w).2⟩
  unfold ioRead
  split
  · exact balanced
  · have readBalanced := read_balanced conforms balanced ocb.data.fid ocb.data.offset msg.nbytes
    have listBalanced := readDir_balanced conforms balanced ocb.data.fid ocb.data.offset msg.nbytes
    split
    · split
      · rename_i w₁ result
        rw [result] at listBalanced
        exact listBalanced
      · rename_i rc w₁ result
        rw [result] at listBalanced
        exact listBalanced
      · rename_i entries w₁ result
        rw [result] at listBalanced
        simp only
        split <;> exact listBalanced
    · split
      · rename_i w₁ result
        rw [result] at readBalanced
        exact readBalanced
      · rename_i count bytes w₁ result
        rw [result] at readBalanced
        split
        · exact readBalanced
        · split <;> exact readBalanced

theorem ioStat_balanced (q : Qnx) (ocb : ExtOcb) : Balanced table held (ioStat T q ocb w).2 := by
  have attr := getAttr_balanced conforms balanced ocb.data.fid
  unfold ioStat
  split
  · rename_i rc w₁ result
    rw [result] at attr
    exact attr
  · rename_i stat w₁ result
    rw [result] at attr
    exact attr

theorem writeLoop_balanced (msg : IoWrite) (plan : WritePlan) (fuel round : Nat)
    (totalWritten : UInt32) :
    Balanced table held (writeLoop T msg plan fuel round totalWritten w).2 := by
  -- on the rounds: none of them changes what is in use
  induction fuel generalizing round totalWritten w with
  | zero =>
    rw [writeLoop]
    split <;> exact balanced
  | succ fuel ih =>
    rw [writeLoop]
    split
    · split
      · exact balanced
      · rename_i buf chunk
        have sent := write_balanced conforms balanced plan.fid
          (plan.offset + totalWritten.toUInt64) buf
        simp only
        split
        · exact sent
        · split
          · exact sent
          · exact ih sent _ _
    · exact balanced

theorem ioWrite_balanced (fuel : Nat) (msg : IoWrite) (ocb : ExtOcb) :
    Balanced table held (ioWrite T q fuel msg ocb w).2 ∧
      (ioWrite T q fuel msg ocb w).1.2.data.fid = ocb.data.fid := by
  refine ⟨?_, (ioWrite_same T q fuel msg ocb w).2⟩
  unfold ioWrite
  split
  · exact balanced
  · split
    · exact balanced
    · split
      · exact balanced
      · rename_i plan planned
        have sent := writeLoop_balanced conforms balanced msg plan fuel 0 0
        split
        · rename_i w₁ result
          rw [result] at sent
          exact sent
        · rename_i errno w₁ result
          rw [result] at sent
          exact sent
        · rename_i total w₁ result
          rw [result] at sent
          exact sent

end Handlers

/-! ### Runs -/

/-- The fids of the open OCBs. -/
def Driver.openFids (d : Driver σ) : List UInt32 := d.ocbs.map fun ocb => ocb.data.fid

section Runs

variable {T : Transport σ} {table : σ → FidTable Obj} {root : Bytes → Obj}

theorem openFids_set {ocbs : List ExtOcb} {i : Nat} {ocb ocb' : ExtOcb}
    (found : ocbs[i]? = some ocb)
    (same : ocb'.data.fid = ocb.data.fid) :
    ((ocbs.set i ocb').map fun ocb => ocb.data.fid) = ocbs.map fun ocb => ocb.data.fid := by
  obtain ⟨inside, here⟩ := List.getElem?_eq_some_iff.mp found
  -- the handler changes the offset of the OCB but not its fid
  have kept : (ocbs.set i ocb).map (fun ocb => ocb.data.fid) =
      ocbs.map fun ocb => ocb.data.fid := by
    rw [← here, List.set_getElem_self]
  rw [List.map_set] at kept ⊢
  rw [same]
  exact kept

theorem openFids_eraseIdx {ocbs : List ExtOcb} {i : Nat} {ocb : ExtOcb}
    (found : ocbs[i]? = some ocb) :
    (ocbs.map fun ocb => ocb.data.fid).Perm
      (ocb.data.fid :: (ocbs.eraseIdx i).map fun ocb => ocb.data.fid) := by
  obtain ⟨inside, here⟩ := List.getElem?_eq_some_iff.mp found
  have split := List.getElem_cons_eraseIdx_perm inside
  rw [here] at split
  exact (split.map fun ocb : ExtOcb => ocb.data.fid).symm

/-- One message. -/
theorem handle_balanced (conforms : T.Conforms table root) (q : Qnx) (call : Call) (d : Driver σ)
    (balanced : Balanced table d.openFids d.link) :
    Balanced table (d.handle T q call).2.openFids (d.handle T q call).2.link := by
  cases call with
  | connectOpen msg openDefault =>
    have opened := connectOpen_balanced conforms (q := q) balanced openDefault msg
    refine opened.perm ?_
    simp only [Driver.handle, Driver.openFids, List.map_append]
    exact List.perm_append_comm
  | connectMknod msg => exact connectMknod_balanced conforms balanced msg
  | connectUnlink msg => exact connectUnlink_balanced conforms balanced msg
  | connectRename msg => exact connectRename_balanced conforms balanced msg
  | ioRead i msg =>
    unfold Driver.handle
    cases found : d.ocbs[i]? with
    | none =>
      simp only [found]
      exact balanced
    | some ocb =>
      obtain ⟨after, same⟩ := ioRead_balanced conforms (q := q) balanced msg ocb
      simp only [found, Driver.openFids]
      rw [openFids_set found same]
      exact after
  | ioWrite i msg fuel =>
    unfold Driver.handle
    cases found : d.ocbs[i]? with
    | none =>
      simp only [found]
      exact balanced
    | some ocb =>
      obtain ⟨after, same⟩ := ioWrite_balanced conforms (q := q) balanced fuel msg ocb
      simp only [found, Driver.openFids]
      rw [openFids_set found same]
      exact after
  | ioStat i =>
    unfold Driver.handle
    cases found : d.ocbs[i]? with
    | none =>
      simp only [found]
      exact balanced
    | some ocb =>
      simp only [found]
      exact ioStat_balanced conforms balanced q ocb
  | ioCloseOcb i =>
    unfold Driver.handle
    cases found : d.ocbs[i]? with
    | none =>
      simp only [found]
      exact balanced
    | some ocb =>
      simp only [found]
      exact clunk_balanced conforms (balanced.perm (openFids_eraseIdx found))

/-- What is in use after a successful `Initialize`. -/
theorem initialize_balanced (conforms : T.Conforms table root) {aname : Bytes} {s : σ}
    (done : (initializeSession T aname ⟨NinePSession.new, s, []⟩).1 = 0) :
    Balanced table [] (initializeSession T aname ⟨NinePSession.new, s, []⟩).2 := by
  let w : Link σ := ⟨NinePSession.new, s, []⟩
  have version : w.exchangeCode T versionRequest = 0 := conforms.delivers _ _
  -- nothing fails, so no session is nested
  have once : initializeSession T aname w = w.initializedOnce T aname :=
    initializeSession_once version fun _ _ => conforms.delivers _ _
  change (initializeSession T aname w).1 = 0 at done
  change Balanced table [] (initializeSession T aname w).2
  rw [once] at done ⊢
  simp only [Link.initializedOnce] at done ⊢
  split at done
  · rename_i rc failed
    exact absurd done (acceptVersion_error failed)
  · rename_i size accepted
    split at done
    · rename_i rc failed
      exact absurd done (readReply_error failed)
    · rename_i qid read
      obtain ⟨attachCode, parsed⟩ := readReply_ok read
      obtain ⟨attach, response⟩ := Link.answer_zero attachCode
      rw [response] at parsed
      have attached : isRattach _ = true := decide_eq_true (parsePayload_some parsed)
      have dropped : table (T.exchange versionRequest.data s).2 = FidTable.empty :=
        conforms.version s version
      have bound := conforms.attach (T.exchange versionRequest.data s).2 aname 0 0 attach
      rw [dropped] at bound
      refine ⟨FidPool.Ordered.new.allocate, fun _ => ⟨rfl, ?_, List.nodup_singleton _⟩⟩
      refine (congrArg FidTable.bound (bound.trans (if_pos attached))).trans ?_
      rw [← FidTable.single, FidTable.bound_single]
      ext fid
      exact List.mem_singleton.symm

/-- Between handlers the fids that are allocated in the pool are those that are bound on the
server, namely the root and those of the open OCBs, which are distinct. -/
theorem fids_balanced (conforms : T.Conforms table root) (q : Qnx) (aname : Bytes) (s : σ)
    (done : (initializeSession T aname ⟨NinePSession.new, s, []⟩).1 = 0) (calls : List Call) :
    let d := ((driver T q).run calls
      ⟨(initializeSession T aname ⟨NinePSession.new, s, []⟩).2, []⟩).2
    let pool := d.link.session.fidPool
    pool.allocations < 2 ^ 32 →
      {fid | pool.isAllocated fid = true} = (table d.link.transport).bound ∧
        {fid | pool.isAllocated fid = true} =
          {fid | fid = d.link.session.rootFid ∨ fid ∈ d.openFids} ∧
        (d.link.session.rootFid :: d.openFids).Nodup := by
  intro d pool few
  have balanced : Balanced table d.openFids d.link :=
    Machine.run_invariant (M := driver T q)
      (fun call d balanced => handle_balanced conforms q call d balanced) calls
      (initialize_balanced conforms done)
  obtain ⟨allocated, bound, distinct⟩ := balanced.2 few
  have listed : {fid | pool.isAllocated fid = true} =
      {fid | fid ∈ d.link.session.rootFid :: d.openFids} := by
    ext fid
    change pool.isAllocated fid = true ↔ fid ∈ d.link.session.rootFid :: d.openFids
    rw [FidPool.isAllocated_iff, allocated, List.mem_toFinset]
  refine ⟨listed.trans bound.symm, ?_, distinct⟩
  rw [listed]
  ext fid
  exact List.mem_cons

end Runs

/-! ### A conforming server -/

theorem fidServer_conforms (msize : UInt32) :
    (fidServer msize).Conforms FidServer.table fun _ => 0 where
  toDropsFids := fidServer_drops msize
  delivers s request := rfl
  walk s tag fid newfid names short named free := by
    intro answer
    let r := Request.twalk fid newfid names
    obtain ⟨object, bound⟩ := Option.ne_none_iff_exists'.mp named
    have type : FidServer.typeOf (r.build tag).data = some .twalk := FidServer.typeOf_build r tag
    have first : FidServer.fidAt (r.build tag).data 7 = fid := FidServer.firstFid_build rfl
    have new : FidServer.fidAt (r.build tag).data 11 = newfid := FidServer.newfid_build
    have count : FidServer.fieldAt (r.build tag).data 15 2 = names.length :=
      FidServer.nwname_build short
    have accepted : FidServer.accepts (r.build tag).data
        ((FidServer.fidsOf (r.build tag).data).map s.table) = true := by
      unfold FidServer.accepts FidServer.fidsOf
      simp only [type, first, new, List.map_cons, List.map_nil, bound, free]
      rfl
    have answered : answer = _ := fidServer_exchange msize r tag s
    -- this server resolves every walk
    refine Or.inr (Or.inr ⟨List.replicate names.length FidServer.anyQid, ?_, ?_, ?_⟩)
    · exact List.length_replicate
    · rw [answered, FidServer.respond, if_pos accepted, FidServer.reply, type]
      simp only [count]
      rfl
    · rw [answered]
      simp only [FidServer.after, if_pos accepted, FidServer.tableAfter, type, first, new, count,
        bound]
      ext other
      by_cases same : other = newfid
      · subst same
        simp
      · simp [same]
  clunk s tag fid named := by
    intro answer
    let r := Request.tclunk fid
    obtain ⟨object, bound⟩ := Option.ne_none_iff_exists'.mp named
    have type : FidServer.typeOf (r.build tag).data = some .tclunk := FidServer.typeOf_build r tag
    have first : FidServer.fidAt (r.build tag).data 7 = fid := FidServer.firstFid_build rfl
    have accepted : FidServer.accepts (r.build tag).data
        ((FidServer.fidsOf (r.build tag).data).map s.table) = true := by
      unfold FidServer.accepts FidServer.fidsOf
      simp only [type, first, List.map_cons, List.map_nil, bound]
      rfl
    have answered : answer = _ := fidServer_exchange msize r tag s
    constructor
    · rw [answered, FidServer.respond, if_pos accepted, FidServer.reply, type]
      rfl
    · rw [answered]
      simp only [FidServer.after, if_pos accepted, FidServer.tableAfter, type, first]
      ext other
      by_cases same : other = fid
      · subst same
        simp
      · simp [same]
  others s tag r keeps := by
    have same : FidServer.tableAfter (r.build tag).data s.table = s.table := by
      rw [FidServer.tableAfter, FidServer.typeOf_build]
      cases r <;> first | rfl | cases keeps
    change ((s.after (r.build tag).data).table).bound = s.table.bound
    unfold FidServer.after
    split
    · exact congrArg FidTable.bound same
    · rfl

/-- Open "a", make the directory "d", open "b" and close "a". -/
theorem fids_balanced_open :
    let calls : List Call :=
      [.connectOpen ⟨[97], 0, 0, by decide⟩ fun _ _ => eok,
        .connectMknod ⟨[100], 0, 0o040755, by decide⟩,
        .connectOpen ⟨[98], 0, 0, by decide⟩ fun _ _ => eok, .ioCloseOcb 0]
    let d := ((driver (fidServer 8192) Qnx.headers).run calls
      ⟨(initializeSession (fidServer 8192) [] ⟨NinePSession.new, ⟨FidTable.empty, 0⟩, []⟩).2, []⟩).2
    let pool := d.link.session.fidPool
    {fid | pool.isAllocated fid = true} = d.link.transport.table.bound ∧
      {fid | pool.isAllocated fid = true} =
        {fid | fid = d.link.session.rootFid ∨ fid ∈ d.openFids} ∧
      (d.link.session.rootFid :: d.openFids).Nodup :=
  fids_balanced (fidServer_conforms 8192) Qnx.headers [] ⟨FidTable.empty, 0⟩ (by decide +kernel) _
    (by decide +kernel)

end Virtio9p
