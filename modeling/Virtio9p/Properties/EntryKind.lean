import Virtio9p.Properties.ParentRoute
import Virtio9p.Properties.WritePayload
import Virtio9p.Server.ListedServer

/-!
# The bit of a directory

`ConnectUnlink` and `ConnectOpen` take an object for a directory if its mode has the bit 0040000.
A block device and a socket have this bit, too.
-/
namespace Virtio9p

open NinePMessage

variable {σ ν : Type}

/-- A directory, or an object whose mode lacks the bit that the handlers test. -/
def ToldApart (mode : UInt32) : Prop := IsDirectory mode ∨ mode &&& 0o040000 = 0

theorem toldApart_iff {mode : UInt32} :
    ToldApart mode ↔ (mode &&& 0o040000 ≠ 0 ↔ IsDirectory mode) := by
  have bit : IsDirectory mode → mode &&& 0o040000 ≠ 0 := by
    intro kind none
    have inside : mode &&& 0o170000 &&& 0o040000 = mode &&& 0o040000 := UInt32.and_assoc ..
    rw [kind, none] at inside
    exact absurd inside (by decide)
  constructor
  · rintro (kind | none)
    · exact iff_of_true (bit kind) kind
    · exact iff_of_false (not_not_intro none) fun kind => bit kind none
  · intro agree
    by_cases kind : IsDirectory mode
    · exact .inl kind
    · exact .inr (not_not.mp fun some => kind (agree.mp some))

/-! ### Tunlinkats -/

/-- The Tunlinkats sent so far. -/
def tunlinkats (w : Link σ) : List Bytes :=
  w.requests.filter fun request => typeByte request = MessageType.tunlinkat.code

theorem tunlinkats_exchanged (T : Transport σ) (r : Request) (tag : UInt16) (w : Link σ) :
    tunlinkats (w.exchanged T (r.build tag)) =
      tunlinkats w ++ if r.type = .tunlinkat then [(r.build tag).data] else [] := by
  have kind : typeByte (r.build tag).data = r.type.code := getType_of_header (r.build_data tag)
  unfold tunlinkats Link.requests Link.exchanged
  rw [List.map_append, List.filter_append, List.map_singleton, List.filter_singleton, kind]
  by_cases same : r.type = .tunlinkat
  · rw [if_pos same, same]
    rfl
  · have other : r.type.code ≠ MessageType.tunlinkat.code := fun code =>
      same (MessageType.code_injective code)
    rw [if_neg same]
    simp only [other, decide_false]
    rfl

theorem tunlinkats_callOnce (T : Transport σ) (r : Request) (w : Link σ) :
    tunlinkats (w.callOnce T fun tag => r.build tag) =
      tunlinkats w ++ if r.type = .tunlinkat then [(r.build w.session.nextTag).data] else [] :=
  tunlinkats_exchanged T r w.session.nextTag w.tagged

theorem tunlinkats_walked (T : Transport σ) (path : Bytes) (w : Link σ) :
    tunlinkats (w.walked T path) = tunlinkats w :=
  (tunlinkats_exchanged T (.twalk w.session.rootFid w.session.fidPool.nextFid (splitPath path))
    w.session.nextTag _).trans (List.append_nil _)

/-- Two Tunlinkats with one fid and one name differ in their flags. -/
theorem buildTunlinkat_flags {tag tag' : UInt16} {fid flags flags' : UInt32} {name : Bytes}
    (same : (buildTunlinkat tag fid name flags).data = (buildTunlinkat tag' fid name flags').data) :
    flags = flags' := by
  have last (tag : UInt16) (flags : UInt32) :
      (buildTunlinkat tag fid name flags).data.drop (7 + (6 + name.length)) = Wire.u32 flags := by
    have payload := (Request.tunlinkat fid name flags).drop_build tag (6 + name.length)
    refine payload.trans ?_
    rw [Request.payload, ← List.append_assoc]
    exact List.drop_left' (by simp; omega)
  have bytes : Wire.u32 flags = Wire.u32 flags' := by
    rw [← last tag flags, same, last]
  have number := congrArg LittleEndian.decode bytes
  rw [Wire.u32, Wire.u32, LittleEndian.decode_encode_of_lt (UInt32.toNat_lt _),
    LittleEndian.decode_encode_of_lt (UInt32.toNat_lt _)] at number
  exact UInt32.toNat_inj.mp number

/-! ### ConnectUnlink -/

/-- The path is one of an existing entry, and the walks and the Tgetattr of `ConnectUnlink`
succeed. The numbers of the fids have not run out. -/
structure UnlinkReaches (T : Transport σ) (view : σ → EntryServer ν) (root target : ν)
    (path : Bytes)
    (w : Link σ) : Prop where
  rooted : (view w.transport).fids w.session.rootFid = some root
  fresh : w.session.fidPool.nextFid ≠ w.session.rootFid
  entry : locate (view w.transport).lookup root (splitPath path) = some target
  succeeds : ∃ parent w₁ fid w₂ stat, walkParent T path w = (.ok parent, w₁) ∧
    walk T path w₁ = (.ok fid, w₂) ∧ (getAttr T fid w₂).1 = .ok stat

/-- The link when `ConnectUnlink` comes to its Tunlinkat. -/
def beforeUnlink (T : Transport σ) (path : Bytes) (w : Link σ) : Link σ :=
  (unlinkFlags T path (walkParent T path w).2).2

/-- What `ConnectUnlink` knows then. -/
structure UnlinkReady (T : Transport σ) (view : σ → EntryServer ν) (mode : ν → UInt32)
    (root target : ν) (path : Bytes) (w : Link σ) (directory : ν) (fid : UInt32) : Prop where
  parent : locate (view w.transport).lookup root (splitPath (splitParent path).1) = some directory
  there : (view w.transport).lookup directory (splitParent path).2 = some target
  named : (walkParent T path w).1 = .ok (fid, (splitParent path).2)
  flags : (unlinkFlags T path (walkParent T path w).2).1 =
    if mode target &&& 0o040000 ≠ 0 then linuxAtRemovedir else 0
  bound : (view (beforeUnlink T path w).transport).fids fid = some directory
  kept : (view (beforeUnlink T path w).transport).lookup = (view w.transport).lookup
  unsent : tunlinkats (beforeUnlink T path w) = tunlinkats w

theorem connectUnlink_eq {T : Transport σ} {msg : IoConnect} {w : Link σ} {fid : UInt32}
    {name : Bytes} (named : (walkParent T msg.path w).1 = .ok (fid, name)) :
    let unlinked := unlink T fid name (unlinkFlags T msg.path (walkParent T msg.path w).2).1
      (beforeUnlink T msg.path w)
    connectUnlink T msg w =
      (match unlinked.1 with
        | .error rc => -rc
        | .ok _ => eok, (clunk T fid unlinked.2).2) := by
  have nonempty : msg.path ≠ [] := by
    intro empty
    rw [walkParent_nameless (.inl empty)] at named
    cases named
  have split : walkParent T msg.path w = (.ok (fid, name), (walkParent T msg.path w).2) :=
    Prod.ext named rfl
  unfold connectUnlink beforeUnlink
  rw [if_neg nonempty, split]
  simp only
  cases (unlink T fid name (unlinkFlags T msg.path (walkParent T msg.path w).2).1
    (unlinkFlags T msg.path (walkParent T msg.path w).2).2).1 <;> rfl

section Serves

variable [DecidableEq ν] {T : Transport σ} {view : σ → EntryServer ν} {mode : ν → UInt32}
  (serves : T.ServesEntries view mode) {root target directory : ν} {w : Link σ} {fid : UInt32}

include serves

/-- The look at the target sends no Tunlinkat and gives the fid back that it takes. -/
private theorem unlinkFlags_ready {path : Bytes} (short : ShortNames (splitPath path))
    (rooted : (view w.transport).fids w.session.rootFid = some root) {w' : Link σ}
    (walked : walk T path w = (.ok fid, w')) {stat : NinePStat}
    (attributes : (getAttr T fid w').1 = .ok stat) :
    ∃ target, locate (view w.transport).lookup root (splitPath path) = some target ∧
      (unlinkFlags T path w).1 = (if mode target &&& 0o040000 ≠ 0 then linuxAtRemovedir else 0) ∧
      view (unlinkFlags T path w).2.transport =
        ((view w.transport).bind w.session.fidPool.nextFid (some target)).bind
          w.session.fidPool.nextFid none ∧
      tunlinkats (unlinkFlags T path w).2 = tunlinkats w := by
  have looked : unlinkFlags T path w =
      (if stat.mode &&& 0o040000 ≠ 0 then linuxAtRemovedir else 0,
        (clunk T fid (getAttr T fid w').2).2) := by
    unfold unlinkFlags
    simp only [walked, attributes]
  obtain ⟨rfl, rfl, target, found, bound⟩ := walk_ok serves.toWalks short rooted walked
  have named : (view (w.walked T path).transport).fids w.session.fidPool.nextFid = some target := by
    rw [bound, EntryServer.bind_self]
  obtain ⟨kind, called, same⟩ := getAttr_ok serves named attributes
  have held : (view (getAttr T w.session.fidPool.nextFid (w.walked T path)).2.transport).fids
      w.session.fidPool.nextFid ≠ none := by
    rw [same, named]
    exact Option.some_ne_none target
  obtain ⟨clunked, unbound⟩ := clunk_bound serves held
  rw [looked]
  refine ⟨target, found, by rw [kind], by rw [unbound, same, bound], ?_⟩
  rw [clunked, called]
  let stated := (w.walked T path).callOnce T fun tag =>
    buildTgetattr tag w.session.fidPool.nextFid getattrBasic
  calc tunlinkats (stated.callOnce T fun tag => buildTclunk tag w.session.fidPool.nextFid)
      = tunlinkats stated := (tunlinkats_callOnce T (.tclunk _) stated).trans (List.append_nil _)
    _ = tunlinkats (w.walked T path) :=
        (tunlinkats_callOnce T (.tgetattr _ _) (w.walked T path)).trans (List.append_nil _)
    _ = tunlinkats w := tunlinkats_walked T path w

theorem unlink_ready {path : Bytes} (reaches : UnlinkReaches T view root target path w) :
    ∃ directory fid, UnlinkReady T view mode root target path w directory fid := by
  obtain ⟨rooted, fresh, entry, ⟨fid, name⟩, w₁, targetFid, w₂, stat, parentWalk, targetWalk,
    attributes⟩ := reaches
  obtain ⟨rfl, nonempty, walked⟩ := walkParent_ok parentWalk
  have short := serves.names_short entry
  have components := splitPath_parent nonempty
  have shortParent : ShortNames (splitPath (splitParent path).1) := by
    intro name member
    apply short
    rw [components]
    exact List.mem_append_left _ member
  obtain ⟨rfl, rfl, directory, found, bound⟩ := walk_ok serves.toWalks shortParent rooted walked
  -- the root is still attached when the target is walked to
  have rooted₁ : (view (w.walked T (splitParent path).1).transport).fids w.session.rootFid =
      some root := by
    rw [bound, EntryServer.bind_other _ fresh.symm, rooted]
  obtain ⟨target', found', flags, after, unsent⟩ :=
    unlinkFlags_ready serves short rooted₁ targetWalk attributes
  rw [bound, EntryServer.bind_lookup] at found'
  obtain rfl := Option.some.inj (entry.symm.trans found')
  rw [components, locate_concat, found] at entry
  have other : w.session.fidPool.nextFid ≠
      (w.walked T (splitParent path).1).session.fidPool.nextFid := (FidPool.nextFid_moves _).symm
  refine ⟨directory, w.session.fidPool.nextFid, found, entry, ?_, ?_, ?_, ?_, ?_⟩
  · rw [parentWalk]
  · rw [parentWalk]
    exact flags
  · rw [beforeUnlink, parentWalk, after, EntryServer.bind_other _ other,
      EntryServer.bind_other _ other, bound, EntryServer.bind_self]
  · rw [beforeUnlink, parentWalk, after, bound]
    rfl
  · rw [beforeUnlink, parentWalk]
    exact unsent.trans (tunlinkats_walked T _ w)

end Serves

/-! ### Unlinks and opens of an entry -/

/-- One Tunlinkat goes out, to a fid of the parent directory and with the last name of the path;
it has `AT_REMOVEDIR` if and only if the entry is a directory. -/
def SendsUnlinkat (T : Transport σ) (view : σ → EntryServer ν) (mode : ν → UInt32)
    (root target : ν) (msg : IoConnect) (w : Link σ) : Prop :=
  ∃ directory tag fid,
    locate (view w.transport).lookup root (splitPath (splitParent msg.path).1) = some directory ∧
    (walkParent T msg.path w).1 = .ok (fid, (splitParent msg.path).2) ∧
    (view (beforeUnlink T msg.path w).transport).fids fid = some directory ∧
    tunlinkats (connectUnlink T msg w).2 = tunlinkats w ++
      [(buildTunlinkat tag fid (splitParent msg.path).2
        (if IsDirectory (mode target) then linuxAtRemovedir else 0)).data]

/-- An entry that is no directory or an empty one is removed, and nothing else is. -/
def RemovesEntry [DecidableEq ν] (T : Transport σ) (view : σ → EntryServer ν) (mode : ν → UInt32)
    (root target : ν) (msg : IoConnect) (w : Link σ) : Prop :=
  (IsDirectory (mode target) → (view w.transport).Vacant target) →
    (connectUnlink T msg w).1 = eok ∧ ∃ directory,
      locate (view w.transport).lookup root (splitPath (splitParent msg.path).1) =
        some directory ∧
      (view (connectUnlink T msg w).2.transport).lookup =
        ((view w.transport).remove directory (splitParent msg.path).2).lookup

/-- The walk, the Tlopen and the Tgetattr of `ConnectOpen` succeed on an existing entry, and it
yields an OCB. -/
structure OpenReaches (T : Transport σ) (view : σ → EntryServer ν) (root target : ν) (q : Qnx)
    (openDefault : UInt32 → UInt32 → Int32) (msg : IoConnect) (ocb : ExtOcb) (w : Link σ) :
    Prop where
  rooted : (view w.transport).fids w.session.rootFid = some root
  entry : locate (view w.transport).lookup root (splitPath (openPath msg)) = some target
  succeeds : ∃ fid w₁ iounit w₂ stat, walk T (openPath msg) w = (.ok fid, w₁) ∧
    openFid T fid (translateQnxToLinuxFlags q msg.ioflag) w₁ = (.ok iounit, w₂) ∧
    (getAttr T fid w₂).1 = .ok stat
  opened : (connectOpen T q openDefault msg w).1.2 = some ocb

section Entries

variable [DecidableEq ν] {T : Transport σ} {view : σ → EntryServer ν} {mode : ν → UInt32}
  (serves : T.ServesEntries view mode) {root target directory : ν} {w : Link σ} {fid : UInt32}
  {msg : IoConnect} (ready : UnlinkReady T view mode root target msg.path w directory fid)

include serves ready

omit [DecidableEq ν] serves in
private theorem there_before : (view (beforeUnlink T msg.path w).transport).lookup directory
    (splitParent msg.path).2 = some target := by
  rw [ready.kept, ready.there]

/-- The Tunlinkat that goes out has the flags of the look at the target. -/
theorem connectUnlink_sends :
    tunlinkats (connectUnlink T msg w).2 = tunlinkats w ++
      [(buildTunlinkat (beforeUnlink T msg.path w).session.nextTag fid (splitParent msg.path).2
        (if mode target &&& 0o040000 ≠ 0 then linuxAtRemovedir else 0)).data] := by
  have short := serves.short _ _ _ _ ready.there
  rw [connectUnlink_eq ready.named, ready.flags]
  let flags := if mode target &&& 0o040000 ≠ 0 then linuxAtRemovedir else 0
  obtain ⟨called, fids⟩ := unlink_fids serves ready.bound flags short
  have held : (view (unlink T fid (splitParent msg.path).2 flags
      (beforeUnlink T msg.path w)).2.transport).fids fid ≠ none := by
    rw [fids, ready.bound]
    exact Option.some_ne_none directory
  obtain ⟨clunked, -⟩ := clunk_bound serves held
  let sent := (beforeUnlink T msg.path w).callOnce T fun tag =>
    buildTunlinkat tag fid (splitParent msg.path).2 flags
  calc tunlinkats (clunk T fid (unlink T fid (splitParent msg.path).2 flags
        (beforeUnlink T msg.path w)).2).2
      = tunlinkats (sent.callOnce T fun tag => buildTclunk tag fid) := by rw [clunked, called]; rfl
    _ = tunlinkats sent := (tunlinkats_callOnce T (.tclunk fid) sent).trans (List.append_nil _)
    _ = tunlinkats (beforeUnlink T msg.path w) ++ _ :=
        tunlinkats_callOnce T (.tunlinkat fid (splitParent msg.path).2 flags) _
    _ = tunlinkats w ++ _ := by rw [ready.unsent]; rfl

/-- Its flags are the right ones exactly if the mode tells the entry from a directory. -/
theorem sends_iff : SendsUnlinkat T view mode root target msg w ↔ ToldApart (mode target) := by
  have sends := connectUnlink_sends serves ready
  have removes : linuxAtRemovedir ≠ 0 := by decide
  rw [toldApart_iff]
  constructor
  · rintro ⟨directory', tag, fid', -, named, -, sent⟩
    rw [ready.named] at named
    obtain rfl : fid = fid' := (Prod.mk.inj (Except.ok.inj named)).1
    -- both are the one request that goes out
    have one := List.append_cancel_left (sends.symm.trans sent)
    have flags := buildTunlinkat_flags (List.singleton_inj.mp one)
    by_cases bit : mode target &&& 0o040000 ≠ 0
    · rw [if_pos bit] at flags
      refine iff_of_true bit ?_
      by_contra kind
      rw [if_neg kind] at flags
      exact removes flags
    · rw [if_neg bit] at flags
      refine iff_of_false bit fun kind => ?_
      rw [if_pos kind] at flags
      exact removes flags.symm
  · intro agree
    refine ⟨directory, (beforeUnlink T msg.path w).session.nextTag, fid, ready.parent,
      ready.named, ready.bound, sends.trans ?_⟩
    simp only [agree]

theorem removes_iff : RemovesEntry T view mode root target msg w ↔ ToldApart (mode target) := by
  have there := there_before ready
  have before := ready.kept
  let flags := if mode target &&& 0o040000 ≠ 0 then linuxAtRemovedir else 0
  have flag : flags &&& linuxAtRemovedir ≠ 0 ↔ mode target &&& 0o040000 ≠ 0 := by
    by_cases bit : mode target &&& 0o040000 ≠ 0
    · simp only [flags, if_pos bit]
      exact iff_of_true (by decide) bit
    · simp only [flags, if_neg bit]
      exact iff_of_false (by decide) bit
  unfold RemovesEntry
  rw [connectUnlink_eq ready.named, ready.flags, toldApart_iff]
  constructor
  · intro removes
    by_contra differ
    -- an entry that is taken for a directory is none, so nothing keeps it from going
    have kind : ¬ IsDirectory (mode target) := fun kind =>
      differ (toldApart_iff.mp (.inl kind))
    have refused : ¬ (flags &&& linuxAtRemovedir ≠ 0 ↔ IsDirectory (mode target)) := fun agree =>
      differ (flag.symm.trans agree)
    obtain ⟨ecode, failed⟩ := unlink_fails serves ready.bound there refused
    obtain ⟨succeeds, -⟩ := removes fun directory => absurd directory kind
    rw [failed] at succeeds
    exact Int32.neg_ne_zero.mpr (refusal_ne_zero ecode) succeeds
  · intro agree vacant
    have empty : IsDirectory (mode target) →
        (view (beforeUnlink T msg.path w).transport).Vacant target := by
      intro kind name
      rw [before]
      exact vacant kind name
    obtain ⟨removed, after⟩ := unlink_removes serves ready.bound there (flag.trans agree) empty
    simp only
    rw [removed]
    refine ⟨rfl, directory, ready.parent, ?_⟩
    have held : (view ((beforeUnlink T msg.path w).callOnce T fun tag =>
        buildTunlinkat tag fid (splitParent msg.path).2 flags).transport).fids fid ≠ none := by
      rw [after]
      exact Option.ne_none_iff_exists'.mpr ⟨directory, ready.bound⟩
    obtain ⟨-, unbound⟩ := clunk_bound serves held
    rw [unbound, after, EntryServer.bind_lookup, EntryServer.remove, EntryServer.remove, before]

omit ready in
/-- The mark of an OCB is the tested bit. -/
theorem marks_iff {q : Qnx} {openDefault : UInt32 → UInt32 → Int32} {ocb : ExtOcb}
    (reaches : OpenReaches T view root target q openDefault msg ocb w) :
    (ocb.data.isDirectory = true ↔ IsDirectory (mode target)) ↔ ToldApart (mode target) := by
  obtain ⟨rooted, entry, ⟨fid, w₁, iounit, w₂, stat, walked, isOpen, attributes⟩, opened⟩ := reaches
  have short := serves.names_short entry
  obtain ⟨-, -, target', found, bound⟩ := walk_ok serves.toWalks short rooted walked
  obtain rfl := Option.some.inj (entry.symm.trans found)
  have same : view (openFid T fid (translateQnxToLinuxFlags q msg.ioflag) w₁).2.transport =
      view w₁.transport := openFid_view serves _
  rw [isOpen] at same
  have named : (view w₂.transport).fids fid = some target := by
    rw [same, bound, EntryServer.bind_self]
  obtain ⟨kind, -, -⟩ := getAttr_ok serves named attributes
  unfold connectOpen at opened
  simp only [walked, isOpen, attributes, kind, openOcb] at opened
  split at opened
  · cases opened
  · obtain rfl := Option.some.inj opened
    rw [toldApart_iff, decide_eq_true_iff]

omit ready in
/-- An unlink of an existing entry and the mark of an OCB for it are right exactly if the entry is
a directory or its mode lacks the bit that is tested. -/
theorem unlink_and_open_iff (q : Qnx) (openDefault : UInt32 → UInt32 → Int32) :
    (UnlinkReaches T view root target msg.path w →
      (SendsUnlinkat T view mode root target msg w ↔ ToldApart (mode target)) ∧
      (RemovesEntry T view mode root target msg w ↔ ToldApart (mode target))) ∧
    ∀ ocb, OpenReaches T view root target q openDefault msg ocb w →
      ((ocb.data.isDirectory = true ↔ IsDirectory (mode target)) ↔ ToldApart (mode target)) := by
  constructor
  · intro reaches
    obtain ⟨directory, fid, ready⟩ := unlink_ready serves reaches
    exact ⟨sends_iff serves ready, removes_iff serves ready⟩
  · intro ocb reaches
    exact marks_iff serves reaches

end Entries

/-- The root is a directory, every other object has this mode. -/
def oneMode (mode : UInt32) (object : Nat) : UInt32 := if object = 0 then 0o040755 else mode

/-- The root has one entry `a`. -/
def oneEntry : Link Listing := listedSession [(0, ⟨[97], by decide⟩, 1)]

theorem onEntry_received : ([97] : Bytes).length + 2 ≤ maxMessageSize.toNat := by decide

def onEntry : IoConnect := ⟨[97], 0, 0, onEntry_received⟩

theorem unlink_and_open_iff_regular :
    SendsUnlinkat (listedServer (oneMode 0o100644)) Listing.view (oneMode 0o100644) 0 1 onEntry
        oneEntry ∧
      RemovesEntry (listedServer (oneMode 0o100644)) Listing.view (oneMode 0o100644) 0 1 onEntry
        oneEntry ∧
      ∃ ocb, (connectOpen (listedServer (oneMode 0o100644)) Qnx.headers (fun _ _ => eok) onEntry
          oneEntry).1.2 = some ocb ∧
        (ocb.data.isDirectory = true ↔ IsDirectory (oneMode 0o100644 1)) := by
  obtain ⟨unlinks, opens⟩ := unlink_and_open_iff (listedServer_serves (oneMode 0o100644))
    Qnx.headers (fun _ _ => eok)
  have told : ToldApart (oneMode 0o100644 1) := .inr (by decide)
  have reaches : UnlinkReaches (listedServer (oneMode 0o100644)) Listing.view 0 1 onEntry.path
      oneEntry :=
    ⟨rfl, by decide, by decide +kernel, (1, [97]), _, 2, _,
      { NinePStat.zero with mode := 0o100644 }, Prod.ext (by decide +kernel) rfl,
      Prod.ext (by decide +kernel) rfl, by decide +kernel⟩
  have opened : (connectOpen (listedServer (oneMode 0o100644)) Qnx.headers (fun _ _ => eok) onEntry
      oneEntry).1.2 = some ⟨0, 0o100644, 0, ⟨1, 0, 0, false, 0⟩⟩ := by decide +kernel
  have openReaches : OpenReaches (listedServer (oneMode 0o100644)) Listing.view 0 1 Qnx.headers
      (fun _ _ => eok) onEntry ⟨0, 0o100644, 0, ⟨1, 0, 0, false, 0⟩⟩ oneEntry :=
    ⟨rfl, by decide +kernel, ⟨1, _, 0, _, { NinePStat.zero with mode := 0o100644 },
      Prod.ext (by decide +kernel) rfl, Prod.ext (by decide +kernel) rfl,
        by decide +kernel⟩, opened⟩
  exact ⟨(unlinks reaches).1.mpr told, (unlinks reaches).2.mpr told, _, opened,
    (opens _ openReaches).mpr told⟩

/-- For a socket the driver sends a Tunlinkat with `AT_REMOVEDIR`, and the server refuses it. -/
theorem socket_not_removed :
    (listedServer (oneMode 0o140755)).ServesEntries Listing.view (oneMode 0o140755) ∧
      UnlinkReaches (listedServer (oneMode 0o140755)) Listing.view 0 1 onEntry.path oneEntry ∧
      ¬ IsDirectory (oneMode 0o140755 1) ∧
      ¬ SendsUnlinkat (listedServer (oneMode 0o140755)) Listing.view (oneMode 0o140755) 0 1 onEntry
        oneEntry ∧
      ¬ RemovesEntry (listedServer (oneMode 0o140755)) Listing.view (oneMode 0o140755) 0 1 onEntry
        oneEntry := by
  have reaches : UnlinkReaches (listedServer (oneMode 0o140755)) Listing.view 0 1 onEntry.path
      oneEntry :=
    ⟨rfl, by decide, by decide +kernel, (1, [97]), _, 2, _,
      { NinePStat.zero with mode := 0o140755 }, Prod.ext (by decide +kernel) rfl,
      Prod.ext (by decide +kernel) rfl, by decide +kernel⟩
  have kind : ¬ IsDirectory (oneMode 0o140755 1) := by decide
  refine ⟨listedServer_serves _, reaches, kind, ?_, ?_⟩
  · intro sends
    obtain ⟨directory, fid, ready⟩ := unlink_ready (listedServer_serves _) reaches
    rcases (sends_iff (listedServer_serves _) ready).mp sends with socket | unmarked
    · exact kind socket
    · exact absurd unmarked (by decide)
  · intro removes
    have succeeds := (removes fun directory => absurd directory kind).1
    exact absurd succeeds (by decide +kernel)

end Virtio9p
