import Virtio9p.Resmgr.IntendedCalls

/-!
# Calls that are served as they are meant

Where a call meets its condition, the handlers' decisions come to what it is meant to do: the same
reply, the same files of the host, and the same open files.
-/
namespace Virtio9p

open Attempt

variable {ν φ : Type} {f : FileService ν φ} {q : Qnx}

/-! ### Names -/

/-- The directory bit stands for a directory, as far as the host has such files. -/
theorem modeFlags_meant (ordinary : f.Ordinary) (object : ν) :
    f.modeFlags object = (hosted (f.getattr object getattrBasic)).fold
      (fun stat => pure (if sIsdir stat.mode then linuxAtRemovedir else 0)) fun _ => pure 0 := by
  funext s
  simp only [FileService.modeFlags, hosted, Attempt.fold]
  cases queried : f.getattr object getattrBasic s with
  | mk result s' =>
    cases result with
    | error ecode => rfl
    | ok stat =>
      have kind := ordinary.kinds object getattrBasic s stat s' queried
      simp only [Attempt.pure, kind]

theorem removeEntry_meant (ordinary : f.Ordinary) (root : ν) (msg : IoConnect) :
    f.removeEntry root msg = f.intendedRemoval root msg := by
  unfold FileService.removeEntry FileService.intendedRemoval FileService.removalFlags
    FileService.intendedFlags
  simp only [modeFlags_meant ordinary]

/-! ### Opening -/

section Open

variable {openDefault : UInt32 → UInt32 → Int32} {msg : IoConnect}

/-- A refused open leaves the host as it is meant to be left. -/
theorem refused_unchanged (served : OpenServed q openDefault msg) {mode : UInt32}
    (refused : openDefault mode (localFlags q msg) ≠ eok) : ¬ Changing q msg :=
  fun changing => refused (served.granted changing mode)

theorem openExisting_meant (ordinary : f.Ordinary) (served : OpenServed q openDefault msg)
    (object : ν) (s before : φ) :
    f.openExisting q openDefault msg object s =
      match f.intendedExisting q msg object s with
      | (.error errno, s') => (.error errno, s')
      | (.ok (file, mode), s') =>
        if openDefault mode (localFlags q msg) = eok then (.ok file, s')
        else (.error (openDefault mode (localFlags q msg)),
          if Changing q msg then before else f.clunk file.object s') := by
  simp only [FileService.openExisting, FileService.intendedExisting, if_neg served.shared,
    FileService.statOrZero, FileService.grant, hosted, Attempt.bind, Attempt.protect, Attempt.fold]
  cases opens : f.lopen object (translateQnxToLinuxFlags q msg.ioflag) s with
  | mk result s₁ =>
    cases result with
    | error ecode => rfl
    | ok opened =>
      obtain ⟨stat, s₂, queried⟩ := ordinary.described _ _ _ _ _ opens
      have kind := ordinary.kinds _ _ _ _ _ queried
      simp only [Attempt.pure, queried, kind, Bool.decide_eq_true]
      by_cases refused : openDefault stat.mode (localFlags q msg) = eok
      · simp only [refused, ne_eq, not_true_eq_false, if_false, if_true, Attempt.pure]
      · simp only [ne_eq, refused, not_false_eq_true, if_true, if_false,
          if_neg (refused_unchanged served refused), Attempt.fail]

/-- A new file has the permissions that the handler gives it, and is granted. -/
theorem openNew_meant (served : OpenServed q openDefault msg)
    (create : msg.ioflag &&& q.oCreat ≠ 0) (root : ν) (s before : φ) :
    f.openNew root q openDefault msg s =
      match f.intendedNew root q msg s with
      | (.error errno, s') => (.error errno, s')
      | (.ok (file, mode), s') =>
        if openDefault mode (localFlags q msg) = eok then (.ok file, s')
        else (.error (openDefault mode (localFlags q msg)),
          if Changing q msg then before else f.clunk file.object s') := by
  have changing : Changing q msg := .inl create
  have granted := served.granted changing
  have mode : (0o100000 ||| 0o644 : UInt32) = 0o100644 := by decide
  simp only [FileService.openNew, FileService.intendedNew, served.permissions create, mode,
    FileService.grant, hosted, Attempt.bind, Attempt.protect, Attempt.fold]
  cases f.resolveParent root (openPath msg) s with
  | mk result s₁ =>
    cases result with
    | error errno => rfl
    | ok entry =>
      simp only
      cases f.lcreate entry.1 entry.2
        (translateQnxToLinuxFlags q msg.ioflag ||| linuxOCreat) 0o644 0
          s₁ with
      | mk result s₂ =>
        cases result with
        | error ecode => rfl
        | ok created =>
          simp only [Attempt.pure, granted, ne_eq, not_true_eq_false, if_false, if_true]

theorem openPathname_meant (ordinary : f.Ordinary) (served : OpenServed q openDefault msg)
    (root : ν) (s : φ) :
    f.openPathname root q openDefault msg s = f.intendedOpen root q openDefault msg s := by
  simp only [FileService.openPathname, FileService.intendedOpen, FileService.checked, Attempt.fold]
  cases f.resolve root (openPath msg) s with
  | mk result s₁ =>
    cases result with
    | ok object => exact openExisting_meant ordinary served object s₁ s
    | error errno =>
      simp only
      by_cases create : errno = enoent ∧ msg.ioflag &&& q.oCreat ≠ 0
      · simp only [if_pos create]
        exact openNew_meant served create.2 root s₁ s
      · simp only [if_neg create, Attempt.fail]

end Open

/-! ### Reading -/

/-- The loop of the handler keeps the entries that fit. -/
theorem packDirents_fitting (nbytes : UInt32) (entries : List DirEntry) (buf : List Dirent)
    (size : Nat) (offset : UInt64) (within : size ≤ nbytes.toNat) :
    let kept := fitting q (nbytes.toNat - size) entries
    packDirents q nbytes entries buf size offset =
      (buf ++ kept.map (direntOf q), size + packedSize q kept, lastCookie offset kept) := by
  induction entries generalizing buf size offset with
  | nil => simp [packDirents, fitting, packedSize, lastCookie]
  | cons entry entries ih =>
    simp only [packDirents, fitting]
    by_cases fits : direntReclen q entry.name.length ≤ nbytes.toNat - size
    · have rest := ih (buf ++ [direntOf q entry]) (size + direntReclen q entry.name.length)
        entry.offset (by omega)
      rw [if_neg (by omega), if_pos fits, List.map_cons, packedSize_cons]
      refine rest.trans ?_
      rw [Nat.sub_add_eq, List.append_assoc, List.singleton_append, Nat.add_assoc]
      rfl
    · rw [if_neg fits, if_pos (by omega)]
      simp [packedSize, lastCookie]

theorem readFile_meant {c : DirectClient ν φ} {i : Nat} {msg : IoRead}
    (served : ReadServed f q i msg c)
    {file : OpenFile ν} (there : c.opened[i]? = some file) :
    f.readFile q msg file c.files = f.intendedRead q msg file c.files := by
  simp only [FileService.readFile, FileService.intendedRead, served.sequential, OpenFile.position,
    OpenFile.moved]
  by_cases verified : msg.verify ≠ eok
  · simp only [if_pos verified]
  · simp only [if_neg verified]
    by_cases kind : file.isDirectory = true
    · simp only [if_pos kind, Attempt.bind, Attempt.fold, hosted]
      cases listed : f.readdir file.object file.offset msg.nbytes c.files with
      | mk result s =>
        cases result with
        | error ecode => rfl
        | ok entries =>
          have packed := packDirents_fitting (q := q) msg.nbytes entries [] 0 file.offset
            (Nat.zero_le msg.nbytes.toNat)
          simp only [Nat.sub_zero, List.nil_append] at packed
          simp only [Attempt.pure, packed, List.map_eq_nil_iff]
          cases entries with
          | nil =>
            simp only [fitting, lastCookie, if_true]
            rfl
          | cons entry entries =>
            have room := served.room file entry entries s there kind listed
            -- the first entry at least is kept
            have some : fitting q msg.nbytes.toNat (entry :: entries) ≠ [] := by
              simp [fitting, room]
            simp only [some, if_false, reduceCtorEq]
            rfl
    · simp only [if_neg kind]

/-! ### Writing -/

section Write

variable {msg : IoWrite} {message : Nat → UInt8} {file : OpenFile ν}

/-- The units of both sides are the same. -/
theorem unit_chunkSize (file : OpenFile ν) : (chunkSize file.ocb).toNat = file.unit := rfl

/-- The chunks of the handler are the pieces of the payload. -/
theorem writeChunk_meant (source : msg.From message) (unmoved : OverflowUnmoved q msg message)
    {ocb : ExtOcb} {offset : UInt64} (round : Nat) {total : UInt32} (started : total ≤ msg.nbytes) :
    writeChunk msg (planAt msg ocb offset (msg.payloadStart q - msg.ctpOffset)) round total =
      .ok (segment message (msg.payloadStart q + total.toNat)
        (min (msg.nbytes.toNat - total.toNat) (chunkSize ocb).toNat)) := by
  let plan := planAt msg ocb offset (msg.payloadStart q - msg.ctpOffset)
  have whole : segment (sentByte msg plan message) 0 msg.nbytes.toNat =
      segment message (msg.payloadStart q) msg.nbytes.toNat :=
    (sent_eq_payload_iff offset).mpr unmoved
  have chunk := writeChunk_eq source (rfl : plan = _) round started
  refine chunk.trans (congrArg Except.ok (segment_congr fun i inside => ?_))
  have within : total.toNat + i < msg.nbytes.toNat := by
    have bound : i < min (msg.nbytes.toNat - total.toNat) (chunkSize ocb).toNat := inside
    omega
  have byte := segment_inj whole within
  rwa [Nat.zero_add, ← Nat.add_assoc] at byte

theorem sendChunks_done {plan : WritePlan} {total : UInt32} (all : ¬ total < plan.nbytes)
    (object : ν)
    (fuel round : Nat) (s : φ) :
    f.sendChunks msg plan object fuel round total s = (.ok (some total), s) := by
  rw [FileService.sendChunks.eq_def]
  simp only [if_neg all, Attempt.pure]

/-- The offset of the next chunk, as long as the total does not wrap. -/
theorem offset_advance (offset : UInt64) (total count : UInt32)
    (room : total.toNat + count.toNat < 2 ^ 32) :
    offset + (total + count).toUInt64 =
      offset + total.toUInt64 + UInt64.ofNat count.toNat := by
  have sum : (total + count).toNat = total.toNat + count.toNat := by
    rw [UInt32.toNat_add, Nat.mod_eq_of_lt room]
  rw [UInt64.add_assoc]
  congr 1
  apply UInt64.toNat_inj.mp
  rw [UInt32.toNat_toUInt64, sum, UInt64.toNat_add, UInt32.toNat_toUInt64, UInt64.toNat_ofNat']
  omega

/-- The loop of the handler from some total on, by induction on the pieces that are left. -/
theorem sendChunks_meant (source : msg.From message) (unmoved : OverflowUnmoved q msg message)
    {offset : UInt64} {plan : WritePlan}
    (planned : plan = planAt msg file.ocb offset (msg.payloadStart q - msg.ctpOffset)) (object : ν)
    (rounds fuel round : Nat) (total : UInt32) (s : φ) (started : total.toNat ≤ msg.nbytes.toNat)
    (long : msg.nbytes.toNat - total.toNat ≤ rounds)
    (enough : msg.nbytes.toNat - total.toNat ≤ fuel) :
    f.sendChunks msg plan object fuel round total s =
      match f.sendPieces object file.unit rounds (offset + total.toUInt64)
        (segment message (msg.payloadStart q + total.toNat) (msg.nbytes.toNat - total.toNat)) s with
      | ((_, some errno), s') => (.error errno, s')
      | ((taken, none), s') => (.ok (some (total + UInt32.ofNat taken)), s') := by
  have bound := msg.nbytes.toNat_lt
  have nbytes : plan.nbytes = msg.nbytes := by rw [planned]; rfl
  have done {total : UInt32} (all : ¬ total < plan.nbytes) (fuel round : Nat) (s : φ) :
      f.sendChunks msg plan object fuel round total s =
        (.ok (some (total + UInt32.ofNat 0)), s) := by
    rw [sendChunks_done all, show UInt32.ofNat 0 = 0 from rfl, UInt32.add_zero]
  induction rounds generalizing fuel round total s with
  | zero =>
    have all : ¬ total < plan.nbytes := by
      rw [nbytes, UInt32.lt_iff_toNat_lt]
      omega
    rw [done all, FileService.sendPieces]
  | succ rounds ih =>
    by_cases more : total < plan.nbytes
    · have moreNat := UInt32.lt_iff_toNat_lt.mp more
      rw [nbytes] at moreNat
      obtain ⟨fuel, rfl⟩ : ∃ n, fuel = n + 1 := ⟨fuel - 1, by omega⟩
      let piece := segment message (msg.payloadStart q + total.toNat)
        (min (msg.nbytes.toNat - total.toNat) file.unit)
      have size : piece.length = min (msg.nbytes.toNat - total.toNat) file.unit :=
        segment_length _ _ _
      have sizeNat : (UInt32.ofNat piece.length).toNat = piece.length := by
        rw [UInt32.toNat_ofNat']
        omega
      have unit : 0 < file.unit := chunkSize_pos file.ocb
      -- both sides send the same piece
      have chunk : writeChunk msg plan round total = .ok piece := by
        rw [planned]
        exact writeChunk_meant source unmoved round (UInt32.le_iff_toNat_le.mpr started)
      rw [FileService.sendChunks, FileService.sendPieces]
      generalize whole : segment message (msg.payloadStart q + total.toNat)
        (msg.nbytes.toNat - total.toNat) = data
      have nonempty : data ≠ [] := by
        rw [← whole]
        apply List.ne_nil_of_length_pos
        rw [segment_length]
        omega
      have front : data.take file.unit = piece := by
        rw [← whole, segment_take, Nat.min_comm]
      simp only [if_pos more, chunk, if_neg nonempty, front, Attempt.bind, Attempt.fold]
      rw [show plan.offset = offset by rw [planned]; rfl]
      -- and go on by the same answer
      cases written : hosted (f.write object (offset + total.toUInt64) piece) s with
      | mk result s₁ =>
        cases result with
        | error errno => rfl
        | ok count =>
          have within : count.toNat ≤ piece.length := f.written _ _ _ _ _ _ (hosted_ok written)
          simp only [UInt32.lt_iff_toNat_lt, sizeNat]
          by_cases part : count.toNat < piece.length
          · simp only [if_pos part, Attempt.pure, UInt32.ofNat_toNat]
          · -- the piece was taken in full
            have full : count.toNat = piece.length := by omega
            have total' : (total + count).toNat = total.toNat + piece.length := by
              rw [UInt32.toNat_add]
              omega
            have rest := ih fuel (round + 1) (total + count) s₁ (by omega) (by omega) (by omega)
            have left : data.drop file.unit = segment message
                (msg.payloadStart q + (total + count).toNat)
                  (msg.nbytes.toNat - (total + count).toNat) := by
              rw [← whole, segment_rest, total', size, Nat.add_assoc, Nat.sub_add_eq]
            have moved := offset_advance offset total count (by omega)
            rw [← left, moved, full] at rest
            simp only [if_neg part]
            refine rest.trans ?_
            obtain ⟨⟨taken, errno⟩, s'⟩ := f.sendPieces object file.unit rounds
              (offset + total.toUInt64 + UInt64.ofNat piece.length) (data.drop file.unit) s₁
            cases errno with
            | some errno => rfl
            | none =>
              simp only [UInt32.ofNat_add, ← full, UInt32.ofNat_toNat, UInt32.add_assoc]
    · have nothing : segment message (msg.payloadStart q + total.toNat)
          (msg.nbytes.toNat - total.toNat) = [] := by
        rw [nbytes, UInt32.lt_iff_toNat_lt] at more
        rw [show msg.nbytes.toNat - total.toNat = 0 by omega]
        rfl
      rw [done more, FileService.sendPieces, if_pos nothing]

theorem sendPieces_taken (object : ν) (unit rounds : Nat) (offset : UInt64) (data : Bytes) (s : φ) :
    (f.sendPieces object unit rounds offset data s).1.1 ≤ data.length := by
  induction rounds generalizing offset data s with
  | zero => exact Nat.zero_le _
  | succ rounds ih =>
    rw [FileService.sendPieces]
    split_ifs with empty
    · exact Nat.zero_le _
    · have front : (data.take unit).length + (data.drop unit).length = data.length := by
        rw [← List.length_append, List.take_append_drop]
      simp only
      split
      · exact Nat.zero_le _
      · rename_i count s₁ written
        have within := f.written _ _ _ _ _ _ (hosted_ok written)
        split_ifs
        · simp only
          omega
        · have rest := ih (offset + UInt64.ofNat (data.take unit).length) (data.drop unit) s₁
          simp only
          omega

/-- What a write of a known kind begins at. -/
theorem position_known (known : msg.xtype ≠ .other) (file : OpenFile ν) :
    file.position msg.xtype = .ok (msg.fileOffset file.ocb) := by
  unfold OpenFile.position IoWrite.fileOffset
  cases xtype : msg.xtype with
  | none => rfl
  | offset offset => rfl
  | other => exact absurd xtype known

/-- The cursor is moved alike. -/
theorem advanced_moved (known : msg.xtype ≠ .other) (file : OpenFile ν) (taken : Nat)
    (small : taken < 2 ^ 32) : file.advanced msg.xtype (UInt32.ofNat taken) =
      file.moved msg.xtype (msg.fileOffset file.ocb + UInt64.ofNat taken) := by
  have cast : (UInt32.ofNat taken).toUInt64 = UInt64.ofNat taken := by
    apply UInt64.toNat_inj.mp
    rw [UInt32.toNat_toUInt64, UInt32.toNat_ofNat', UInt64.toNat_ofNat']
    omega
  unfold OpenFile.advanced OpenFile.moved IoWrite.fileOffset
  cases xtype : msg.xtype with
  | none => simp only [cast, OpenFile.ocb]
  | offset offset => rfl
  | other => exact absurd xtype known

theorem writeFile_meant {c : DirectClient ν φ} {i fuel : Nat}
    (served : WriteServed f q i msg fuel message c) (there : c.opened[i]? = some file) :
    f.writeFile q fuel msg file c.files = f.intendedWrite q msg message file c.files := by
  have begins := position_known served.known file
  unfold FileService.writeFile FileService.intendedWrite
  by_cases verified : msg.verify ≠ eok
  · simp only [if_pos verified]
  · simp only [if_neg verified, begins]
    have refused := served.refused file _ there begins
    have taken := sendPieces_taken (f := f) file.object file.unit msg.nbytes.toNat
      (msg.fileOffset file.ocb) (segment message (msg.payloadStart q) msg.nbytes.toNat) c.files
    rw [segment_length] at taken
    have bound := msg.nbytes.toNat_lt
    by_cases empty : msg.nbytes = 0
    · have moved := advanced_moved served.known file 0 (by decide)
      have still : file.advanced msg.xtype (UInt32.ofNat 0) = file := by
        have none : file.offset + (UInt32.ofNat 0).toUInt64 = file.offset := UInt64.add_zero _
        unfold OpenFile.advanced
        rw [none]
        cases msg.xtype <;> rfl
      have nothing : f.sendPayload q msg message file (msg.fileOffset file.ocb) c.files =
          ((0, none), c.files) := by
        rw [FileService.sendPayload, empty]
        rfl
      rw [still] at moved
      simp only [if_pos empty, nothing, ← moved, Attempt.pure]
      rfl
    · obtain ⟨plan, planned⟩ : ∃ plan, plan =
          planAt msg file.ocb (msg.fileOffset file.ocb) (msg.payloadStart q - msg.ctpOffset) :=
            ⟨_, rfl⟩
      have zero : (0 : UInt32).toNat = 0 := rfl
      have chunks := sendChunks_meant (f := f) served.source served.unmoved planned file.object
        msg.nbytes.toNat fuel 0 0 c.files (Nat.zero_le _) (Nat.sub_le _ _)
        (Nat.le_trans (Nat.sub_le _ _) served.enough)
      rw [show (0 : UInt32).toUInt64 = 0 from rfl, UInt64.add_zero, zero, Nat.add_zero,
        Nat.sub_zero] at chunks
      simp only [if_neg empty, writePlan_eq served.known, ← planned, Attempt.bind,
        Attempt.fold, chunks]
      unfold FileService.sendPayload at refused ⊢
      revert taken refused
      obtain ⟨⟨taken, errno⟩, s⟩ := f.sendPieces file.object file.unit msg.nbytes.toNat
        (msg.fileOffset file.ocb) (segment message (msg.payloadStart q) msg.nbytes.toNat) c.files
      intro refused within
      cases errno with
      | some errno =>
        have none := refused taken errno rfl
        subst none
        rfl
      | none =>
        have within : taken ≤ msg.nbytes.toNat := within
        have moved := advanced_moved served.known file taken (by omega)
        cases taken <;> simp only [UInt32.zero_add, moved, UInt32.toInt32_ofNat', Attempt.pure]

end Write

/-! ### Runs -/

theorem useFile_congr {c : DirectClient ν φ} {i : Nat}
    {use use' : OpenFile ν → Attempt φ Int32 (Reply × OpenFile ν)}
    (same : ∀ file, c.opened[i]? = some file → use file c.files = use' file c.files) :
    FileService.useFile i use c = FileService.useFile i use' c := by
  unfold FileService.useFile
  cases there : c.opened[i]? with
  | none => rfl
  | some file => simp only [FileService.used, same file there]

/-- One call. -/
theorem call_meant (ordinary : f.Ordinary) {c : DirectClient ν φ} {a : ClientCall}
    (served : ServedAsMeant f q a c) : f.call q c a.call = f.intend q a c := by
  obtain ⟨call, message⟩ := a
  cases call with
  | connectOpen msg openDefault =>
    have opened := openPathname_meant ordinary served c.root c.files
    simp only [FileService.call, FileService.intend, opened]
  | connectUnlink msg =>
    have removed := removeEntry_meant ordinary c.root msg
    simp only [FileService.call, FileService.intend, removed]
  | ioRead i msg => exact useFile_congr fun file there => readFile_meant served there
  | ioWrite i msg fuel => exact useFile_congr fun file there => writeFile_meant served there
  | connectMknod msg => rfl
  | connectRename msg => rfl
  | ioStat i => rfl
  | ioCloseOcb i => rfl

/-- By induction on the calls. -/
theorem run_meant (ordinary : f.Ordinary) {asked : List ClientCall} {c : DirectClient ν φ}
    (served : (f.intended q).Meets (ServedAsMeant f q) asked c) :
    (f.direct q).run (asked.map ClientCall.call) c = (f.intended q).run asked c := by
  induction asked generalizing c with
  | nil => rfl
  | cons a asked ih =>
    have same : (f.direct q).step a.call c = (f.intended q).step a c := call_meant ordinary served.1
    simp only [List.map_cons, Machine.run, same, ih served.2]

end Virtio9p
