import Virtio9p.Protocol.Paths
import Virtio9p.Protocol.ReturnCodes
import Virtio9p.Server.Balance

/-!
# Servers that resolve walks

A server keeps an object for each fid and knows where the names of a directory lead. It resolves
a Twalk of at most 16 names as far as they lead somewhere, and binds the new fid only if all of
them do.
-/
namespace Virtio9p

open NinePMessage

variable {σ ν : Type}

structure EntryServer (ν : Type) where
  fids : FidTable ν
  lookup : ν → Bytes → Option ν

namespace EntryServer

variable (s : EntryServer ν)

def bind (fid : UInt32) (object : Option ν) : EntryServer ν :=
  { s with fids := Function.update s.fids fid object }

@[simp] theorem bind_self (fid : UInt32) (object : Option ν) :
    (s.bind fid object).fids fid = object := Function.update_self ..

@[simp] theorem bind_lookup (fid : UInt32) (object : Option ν) :
    (s.bind fid object).lookup = s.lookup := rfl

theorem bind_other {fid fid' : UInt32} (other : fid' ≠ fid) (object : Option ν) :
    (s.bind fid object).fids fid' = s.fids fid' := Function.update_of_ne other ..

/-- A walk from `fid` may bind `newfid`: it is free, or the walk is one in place. -/
def Bindable (fid newfid : UInt32) : Prop := newfid = fid ∨ s.fids newfid = none

end EntryServer

/-! ### Directories and other objects -/

/-- The type bits of a mode say that it is a directory's. -/
def IsDirectory (mode : UInt32) : Prop := mode &&& 0o170000 = 0o040000

instance (mode : UInt32) : Decidable (IsDirectory mode) := inferInstanceAs (Decidable (_ = _))

namespace EntryServer

/-- Nothing is in the directory. -/
def Vacant (s : EntryServer ν) (object : ν) : Prop := ∀ name, s.lookup object name = none

variable [DecidableEq ν] (s : EntryServer ν)

/-- Take an entry out of its directory. -/
def remove (directory : ν) (name : Bytes) : EntryServer ν :=
  { s with
    lookup := Function.update s.lookup directory (Function.update (s.lookup directory) name none) }

/-- What a Tunlinkat comes to: a directory goes with `AT_REMOVEDIR` and if it is empty, any other
object without. -/
inductive Unlinked (mode : ν → UInt32) (directory : ν) (name : Bytes) (flags : UInt32) :
    Response → EntryServer ν → Prop where
  | missing (absent : s.lookup directory name = none) :
      Unlinked mode directory name flags (.rlerror 2) s
  | isDirectory (object : ν) (there : s.lookup directory name = some object)
      (kind : IsDirectory (mode object)) (flag : flags &&& linuxAtRemovedir = 0) :
      Unlinked mode directory name flags (.rlerror 21) s
  | notDirectory (object : ν) (there : s.lookup directory name = some object)
      (kind : ¬ IsDirectory (mode object)) (flag : flags &&& linuxAtRemovedir ≠ 0) :
      Unlinked mode directory name flags (.rlerror 20) s
  | notEmpty (object : ν) (there : s.lookup directory name = some object)
      (kind : IsDirectory (mode object)) (full : ¬ s.Vacant object) :
      Unlinked mode directory name flags (.rlerror 39) s
  | removed (object : ν) (there : s.lookup directory name = some object)
      (agree : flags &&& linuxAtRemovedir ≠ 0 ↔ IsDirectory (mode object))
      (vacant : IsDirectory (mode object) → s.Vacant object) :
      Unlinked mode directory name flags .runlinkat (s.remove directory name)

theorem Unlinked.fids_eq {s s' : EntryServer ν} {mode : ν → UInt32} {directory : ν} {name : Bytes}
    {flags : UInt32} {r : Response} (unlinked : s.Unlinked mode directory name flags r s') :
    s'.fids = s.fids := by
  cases unlinked <;> rfl

end EntryServer

/-! ### Conforming servers -/

/-- The longest name on the server. -/
def ShortNames (names : List Bytes) : Prop := ∀ name ∈ names, name.length ≤ 255

/-- The most names that a Twalk may have. -/
def maxWalkNames : Nat := 16

/-- An Rlerror with an error number of the server's system. -/
def Refuses (tag : UInt16) (bytes : Bytes) : Prop :=
  ∃ ecode : UInt32, 1 ≤ ecode ∧ ecode ≤ 4095 ∧ bytes = ((Response.rlerror ecode).encode tag).data

/-- An Rwalk with a number of qids. -/
def Walked (count : Nat) (tag : UInt16) (bytes : Bytes) : Prop :=
  ∃ qids : List Qid, qids.length = count ∧ bytes = ((Response.rwalk qids).encode tag).data

/-- A conforming server, as far as walks go. -/
structure Transport.Walks (T : Transport σ) (view : σ → EntryServer ν) : Prop where
  delivers : ∀ s tag fid newfid names,
    (T.exchange (buildTwalk tag fid newfid names).data s).1.1 = 0
  finds : ∀ s tag fid newfid names start object, ShortNames names →
    names.length ≤ maxWalkNames → (view s).fids fid = some start →
    (view s).Bindable fid newfid → locate (view s).lookup start names = some object →
    let answer := T.exchange (buildTwalk tag fid newfid names).data s
    Walked names.length tag answer.1.2 ∧ view answer.2 = (view s).bind newfid (some object)
  misses : ∀ s tag fid newfid names start, ShortNames names →
    names.length ≤ maxWalkNames → (view s).fids fid = some start →
    (view s).Bindable fid newfid → locate (view s).lookup start names = none →
    let answer := T.exchange (buildTwalk tag fid newfid names).data s
    (Refuses tag answer.1.2 ∨ ∃ count < names.length, Walked count tag answer.1.2) ∧
      view answer.2 = view s
  refuses : ∀ s tag fid newfid names, ShortNames names → names.length < 2 ^ 16 →
    (maxWalkNames < names.length ∨ ¬ (view s).Bindable fid newfid) →
    let answer := T.exchange (buildTwalk tag fid newfid names).data s
    Refuses tag answer.1.2 ∧ view answer.2 = view s
  /-- What it makes of a message that has more names than its count says is left open. -/
  uncounted : ∀ s tag fid newfid names, ShortNames names → 2 ^ 16 ≤ names.length →
    let answer := T.exchange (buildTwalk tag fid newfid names).data s
    Refuses tag answer.1.2 ∨ ∃ count < 2 ^ 16, Walked count tag answer.1.2

/-- A conforming server with objects of all kinds, and a transport without failures to it. -/
structure Transport.ServesEntries [DecidableEq ν] (T : Transport σ) (view : σ → EntryServer ν)
    (mode : ν → UInt32) : Prop extends T.Walks view where
  short : ∀ s directory name object, (view s).lookup directory name = some object →
    name.length ≤ 255
  lopen : ∀ s tag fid flags,
    let answer := T.exchange (buildTlopen tag fid flags).data s
    answer.1.1 = 0 ∧ view answer.2 = view s
  getattr : ∀ s tag fid object, (view s).fids fid = some object →
    ∃ (r : Response) (s' : σ),
    T.exchange (buildTgetattr tag fid getattrBasic).data s = ((0, (r.encode tag).data), s') ∧
      view s' = view s ∧
      ((∃ ecode, r = .rlerror ecode) ∨ ∃ stat, r = .rgetattr stat ∧ stat.mode = mode object)
  clunk : ∀ s tag fid, (view s).fids fid ≠ none → ∃ s',
    T.exchange (buildTclunk tag fid).data s = ((0, (Response.rclunk.encode tag).data), s') ∧
      view s' = (view s).bind fid none
  unlinkat : ∀ s tag fid name flags directory, (view s).fids fid = some directory →
    name.length ≤ 255 → ∃ (r : Response) (s' : σ),
      T.exchange (buildTunlinkat tag fid name flags).data s = ((0, (r.encode tag).data), s') ∧
      (view s).Unlinked mode directory name flags r (view s')

/-! ### Walk -/

section Walk

variable {T : Transport σ} {view : σ → EntryServer ν} (walks : T.Walks view) {path : Bytes}
  {w : Link σ}

/-- The request of a `Walk`. -/
def walkRequest (path : Bytes) (w : Link σ) : NinePMessage :=
  buildTwalk w.session.nextTag w.session.rootFid w.session.fidPool.nextFid (splitPath path)

/-- The link after the exchange of a `Walk`, with its fid taken. -/
def Link.walked (T : Transport σ) (path : Bytes) (w : Link σ) : Link σ :=
  (Link.tagged { w with session := w.session.allocateFid.2 }).exchanged T (walkRequest path w)

omit walks in
private theorem walk_eq (ok : w.exchangeCode T (walkRequest path w) = 0) :
    walk T path w =
      match readReply (fun m => (parseRwalk [] m).1) (w.answer T (walkRequest path w)) with
      | .error rc => (.error rc, (w.walked T path).release w.session.fidPool.nextFid)
      | .ok qids =>
        if qids.length ≠ (splitPath path).length then
          (.error (-enoent), (w.walked T path).release w.session.fidPool.nextFid)
        else (.ok w.session.fidPool.nextFid, w.walked T path) :=
  walk_once ok

include walks

/-- An answer that is no full Rwalk gives a negative error, and the fid goes back. -/
private theorem walk_failed
    (answered : Refuses w.session.nextTag (T.exchange (walkRequest path w).data w.transport).1.2 ∨
      ∃ count < 2 ^ 16, count ≠ (splitPath path).length ∧
        Walked count w.session.nextTag (T.exchange (walkRequest path w).data w.transport).1.2) :
    ∃ rc, walk T path w = (.error rc, (w.walked T path).release w.session.fidPool.nextFid) ∧
      rc < 0 := by
  have ok : w.exchangeCode T (walkRequest path w) = 0 := walks.delivers _ _ _ _ _
  rw [walk_eq ok]
  rcases answered with ⟨ecode, least, most, bytes⟩ | ⟨count, small, other, qids, length, bytes⟩
  · rw [readReply_refused ok bytes least]
    refine ⟨_, rfl, negated_code ?_ ?_⟩
    · rintro rfl
      exact absurd least (by decide)
    · have bound := UInt32.le_iff_toNat_le.mp most
      exact Nat.le_trans bound (by decide)
  · have parsed := parseRwalk_encode (length ▸ small) w.session.nextTag
    rw [readReply_answered ok bytes nofun parsed]
    simp only
    rw [if_pos (length ▸ other)]
    exact ⟨_, rfl, by decide⟩

/-- A path that leads somewhere in at most 16 components gives a fid for that object. -/
theorem walk_found {root object : ν} (short : ShortNames (splitPath path))
    (few : (splitPath path).length ≤ maxWalkNames)
    (rooted : (view w.transport).fids w.session.rootFid = some root)
    (bindable : (view w.transport).Bindable w.session.rootFid w.session.fidPool.nextFid)
    (found : locate (view w.transport).lookup root (splitPath path) = some object) :
    walk T path w = (.ok w.session.fidPool.nextFid, w.walked T path) ∧
      view (w.walked T path).transport =
        (view w.transport).bind w.session.fidPool.nextFid (some object) := by
  have ok : w.exchangeCode T (walkRequest path w) = 0 := walks.delivers _ _ _ _ _
  obtain ⟨⟨qids, length, bytes⟩, bound⟩ := walks.finds w.transport w.session.nextTag _ _ _ _ _ short
    few rooted bindable found
  have counted : qids.length < 2 ^ 16 := by
    rw [length]
    exact Nat.lt_of_le_of_lt few (by decide)
  have parsed := parseRwalk_encode counted w.session.nextTag
  refine ⟨?_, bound⟩
  rw [walk_eq ok, readReply_answered ok bytes nofun parsed]
  simp only
  rw [if_neg (not_not_intro length)]

/-- Any other path gives a negative error. -/
theorem walk_lost {root : ν} (short : ShortNames (splitPath path))
    (rooted : (view w.transport).fids w.session.rootFid = some root)
    (lost : locate (view w.transport).lookup root (splitPath path) = none ∨
      maxWalkNames < (splitPath path).length ∨
      ¬ (view w.transport).Bindable w.session.rootFid w.session.fidPool.nextFid) :
    ∃ rc, walk T path w = (.error rc, (w.walked T path).release w.session.fidPool.nextFid) ∧
      rc < 0 := by
  apply walk_failed walks
  by_cases counted : (splitPath path).length < 2 ^ 16
  · by_cases refused : maxWalkNames < (splitPath path).length ∨
        ¬ (view w.transport).Bindable w.session.rootFid w.session.fidPool.nextFid
    · exact .inl (walks.refuses _ _ _ _ _ short counted refused).1
    · have missing := lost.resolve_right refused
      rw [not_or, not_not, Nat.not_lt] at refused
      rcases (walks.misses _ w.session.nextTag _ _ _ _ short refused.1 rooted refused.2 missing).1
        with refuses | ⟨count, fewer, walked⟩
      · exact .inl refuses
      · exact .inr ⟨count, Nat.lt_trans fewer counted, Nat.ne_of_lt fewer, walked⟩
  · rcases walks.uncounted w.transport w.session.nextTag w.session.rootFid
      w.session.fidPool.nextFid (splitPath path) short (Nat.le_of_not_lt counted)
      with refuses | ⟨count, fits, walked⟩
    · exact .inl refuses
    · exact .inr ⟨count, fits, by omega, walked⟩

/-- A `Walk` that succeeds has found the object. -/
theorem walk_ok {root : ν} (short : ShortNames (splitPath path))
    (rooted : (view w.transport).fids w.session.rootFid = some root) {fid : UInt32} {w' : Link σ}
    (ok : walk T path w = (.ok fid, w')) :
    fid = w.session.fidPool.nextFid ∧ w' = w.walked T path ∧
      ∃ object, locate (view w.transport).lookup root (splitPath path) = some object ∧
        view w'.transport = (view w.transport).bind fid (some object) := by
  by_cases lost : locate (view w.transport).lookup root (splitPath path) = none ∨
      maxWalkNames < (splitPath path).length ∨
      ¬ (view w.transport).Bindable w.session.rootFid w.session.fidPool.nextFid
  · obtain ⟨rc, failed, -⟩ := walk_lost walks short rooted lost
    rw [failed] at ok
    cases ok
  · rw [not_or, not_or, not_not, Nat.not_lt] at lost
    obtain ⟨there, few, bindable⟩ := lost
    obtain ⟨object, found⟩ := Option.ne_none_iff_exists'.mp there
    obtain ⟨walked, bound⟩ := walk_found walks short few rooted bindable found
    rw [walked] at ok
    cases ok
    exact ⟨rfl, rfl, object, found, bound⟩

end Walk

/-! ### Calls on bound fids -/

section Calls

variable [DecidableEq ν] {T : Transport σ} {view : σ → EntryServer ν} {mode : ν → UInt32}
  (serves : T.ServesEntries view mode) {fid : UInt32} {w : Link σ}

include serves

/-- The names of a path that leads somewhere are short. -/
theorem Transport.ServesEntries.names_short {s : σ} {names : List Bytes} {start object : ν}
    (found : locate (view s).lookup start names = some object) : ShortNames names := by
  induction names generalizing start with
  | nil => rintro name ⟨⟩
  | cons name names ih =>
    unfold locate at found
    rw [List.foldlM_cons] at found
    obtain ⟨next, step, rest⟩ := Option.bind_eq_some_iff.mp found
    rintro name' (_ | ⟨_, member⟩)
    · exact serves.short s start name next step
    · exact ih rest name' member

theorem openFid_view (flags : UInt32) :
    view (openFid T fid flags w).2.transport = view w.transport := by
  obtain ⟨code, same⟩ := serves.lopen w.transport w.session.nextTag fid flags
  have ok : w.tagged.exchangeCode T (buildTlopen w.session.nextTag fid flags) = 0 := code
  have called : openFid T fid flags w = _ := call_ok _ ok
  rw [called]
  exact same

/-- A `GetAttr` that succeeds gives the mode of the object. -/
theorem getAttr_ok {object : ν} (bound : (view w.transport).fids fid = some object)
    {stat : NinePStat} (ok : (getAttr T fid w).1 = .ok stat) :
    stat.mode = mode object ∧
      (getAttr T fid w).2 = w.callOnce T (fun tag => buildTgetattr tag fid getattrBasic) ∧
      view (getAttr T fid w).2.transport = view w.transport := by
  obtain ⟨r, s', exchange, same, answer⟩ := serves.getattr w.transport w.session.nextTag fid object
    bound
  have after := callOnce_transport (fun tag => buildTgetattr tag fid getattrBasic) exchange
  rcases answer with ⟨ecode, rfl⟩ | ⟨stat', rfl, kind⟩
  · have called : getAttr T fid w = _ :=
      call_rlerror (parsesOnly_payload .rgetattr _) (by decide) ⟨s', exchange⟩
    rw [called] at ok
    cases ok
  · have parsed : (parseRgetattr (ofData ((Response.rgetattr stat').encode
        w.session.nextTag).data)).1 = some stat' :=
      parsed_encode (.rgetattr stat') _ (consumes_rgetattrFields stat') (by simp [Response.payload])
    have called : getAttr T fid w = _ :=
      call_answered ⟨s', exchange⟩ (fun m => (parseRgetattr m).1) (by simp [Response.type]) parsed
    rw [called] at ok ⊢
    cases ok
    exact ⟨kind, rfl, by rw [after, same]⟩

/-- `Clunk` of a bound fid gives it up. -/
theorem clunk_bound (bound : (view w.transport).fids fid ≠ none) :
    (clunk T fid w).2 = (w.callOnce T fun tag => buildTclunk tag fid).release fid ∧
      view (clunk T fid w).2.transport = (view w.transport).bind fid none := by
  obtain ⟨s', exchange, after⟩ := serves.clunk w.transport w.session.nextTag fid bound
  have answers : w.Answers T (fun tag => buildTclunk tag fid) .rclunk := ⟨s', exchange⟩
  rw [clunk, call_of_answers answers]
  refine ⟨rfl, ?_⟩
  rw [← after]
  exact congrArg view (callOnce_transport (fun tag => buildTclunk tag fid) exchange)

section Unlink

variable {directory object : ν} {name : Bytes} {flags : UInt32}
  (bound : (view w.transport).fids fid = some directory)
  (there : (view w.transport).lookup directory name = some object)

include bound there

/-- `Unlink` removes an entry if the flags say what it is, and nothing is in it. -/
theorem unlink_removes (agree : flags &&& linuxAtRemovedir ≠ 0 ↔ IsDirectory (mode object))
    (vacant : IsDirectory (mode object) → (view w.transport).Vacant object) :
    unlink T fid name flags w =
        (.ok (), w.callOnce T fun tag => buildTunlinkat tag fid name flags) ∧
      view (w.callOnce T fun tag => buildTunlinkat tag fid name flags).transport =
        (view w.transport).remove directory name := by
  obtain ⟨r, s', exchange, unlinked⟩ := serves.unlinkat w.transport w.session.nextTag fid name flags
    directory bound (serves.short _ _ _ _ there)
  rw [callOnce_transport (fun tag => buildTunlinkat tag fid name flags) exchange]
  generalize view s' = final at unlinked ⊢
  cases unlinked with
  | missing absent =>
    rw [there] at absent
    cases absent
  | isDirectory object' there' kind flag =>
    cases there.symm.trans there'
    exact absurd flag (agree.mpr kind)
  | notDirectory object' there' kind flag =>
    cases there.symm.trans there'
    exact absurd (agree.mp flag) kind
  | notEmpty object' there' kind full =>
    cases there.symm.trans there'
    exact absurd (vacant kind) full
  | removed object' there' agree' vacant' =>
    have parsed : (parseRunlinkat (ofData (Response.runlinkat.encode w.session.nextTag).data)).1 =
        some () := by
      have kind : (ofData (Response.runlinkat.encode w.session.nextTag).data).getType =
        MessageType.runlinkat.code := typeByte_encode .runlinkat w.session.nextTag
      rw [parseRunlinkat, parseHeader, if_pos kind]
    have proper : Response.runlinkat.type ≠ .rlerror := by simp [Response.type]
    exact ⟨call_answered ⟨s', exchange⟩ (fun m => (parseRunlinkat m).1) proper parsed, rfl⟩

omit there in
/-- Whatever comes out of it, `Unlink` makes one call and unbinds no fid. -/
theorem unlink_fids (flags : UInt32) (short : name.length ≤ 255) :
    (unlink T fid name flags w).2 = w.callOnce T (fun tag => buildTunlinkat tag fid name flags) ∧
      (view (unlink T fid name flags w).2.transport).fids = (view w.transport).fids := by
  obtain ⟨r, s', exchange, unlinked⟩ := serves.unlinkat w.transport w.session.nextTag fid name flags
    directory bound short
  have called : unlink T fid name flags w = _ := call_of_answers ⟨s', exchange⟩ _
  rw [called]
  refine ⟨rfl, ?_⟩
  rw [← unlinked.fids_eq,
    callOnce_transport (fun tag => buildTunlinkat tag fid name flags) exchange]

/-- `Unlink` fails if they say something else. -/
theorem unlink_fails (differ : ¬ (flags &&& linuxAtRemovedir ≠ 0 ↔ IsDirectory (mode object))) :
    ∃ ecode, unlink T fid name flags w =
      (.error (refusal ecode), w.callOnce T fun tag => buildTunlinkat tag fid name flags) := by
  obtain ⟨r, s', exchange, unlinked⟩ := serves.unlinkat w.transport w.session.nextTag fid name flags
    directory bound (serves.short _ _ _ _ there)
  have refused : ∀ ecode, r = .rlerror ecode → ∃ ecode, unlink T fid name flags w =
      (.error (refusal ecode), w.callOnce T fun tag => buildTunlinkat tag fid name flags) := by
    rintro ecode rfl
    exact ⟨ecode, call_rlerror (parsesOnly_header .runlinkat) (by decide) ⟨s', exchange⟩⟩
  generalize view s' = after at unlinked
  cases unlinked with
  | missing => exact refused 2 rfl
  | isDirectory => exact refused 21 rfl
  | notDirectory => exact refused 20 rfl
  | notEmpty => exact refused 39 rfl
  | removed object' there' agree =>
    cases there.symm.trans there'
    exact absurd agree differ

end Unlink

end Calls

end Virtio9p
