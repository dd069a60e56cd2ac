import Mathlib.Data.List.Perm.Basic
import Virtio9p.Server.FidTable

/-!
# Fids in use

On a transport that never fails the pool and the server agree on the fids that are in
use: the root and those that somebody holds. The theorems of this module say what each
session operation does to the held fids.
-/
namespace Virtio9p

open NinePMessage

variable {σ Obj : Type}

/-- A request that neither binds nor unbinds a fid. -/
def Request.keepsFids : Request → Bool
  | .tversion _ _ => false
  | .tattach _ _ _ _ _ => false
  | .twalk _ _ _ => false
  | .tclunk _ => false
  | _ => true

/-- A 9P server behind a transport that never fails. It may refuse any request other than
the Tclunk of a bound fid, and it may resolve a Twalk in part. -/
structure Transport.Conforms (T : Transport σ) (table : σ → FidTable Obj) (root : Bytes → Obj) :
    Prop extends T.DropsFids table root where
  delivers : ∀ s request, (T.exchange request s).1.1 = 0
  walk : ∀ s tag fid newfid names, names.length < 2 ^ 16 → table s fid ≠ none →
    table s newfid = none →
    let answer := T.exchange (buildTwalk tag fid newfid names).data s
    (∃ ecode : UInt32, 1 ≤ ecode ∧ ecode ≤ 4095 ∧
      answer.1.2 = ((Response.rlerror ecode).encode tag).data ∧
      (table answer.2).bound = (table s).bound) ∨
    (∃ qids, qids.length < names.length ∧
      answer.1.2 = ((Response.rwalk qids).encode tag).data ∧
      (table answer.2).bound = (table s).bound) ∨
    ∃ qids, qids.length = names.length ∧
      answer.1.2 = ((Response.rwalk qids).encode tag).data ∧
      (table answer.2).bound = insert newfid (table s).bound
  clunk : ∀ s tag fid, table s fid ≠ none →
    let answer := T.exchange (buildTclunk tag fid).data s
    answer.1.2 = (Response.rclunk.encode tag).data ∧
      (table answer.2).bound = (table s).bound \ {fid}
  others : ∀ s tag (r : Request), r.keepsFids = true →
    (table (T.exchange (r.build tag).data s).2).bound = (table s).bound

/-! ### The invariant -/

/-- The fids in use are the root and `held`. -/
structure InUse (table : σ → FidTable Obj) (held : List UInt32) (w : Link σ) : Prop where
  allocated : w.session.fidPool.allocated = (w.session.rootFid :: held).toFinset
  bound : (table w.transport).bound = {fid | fid ∈ w.session.rootFid :: held}
  distinct : (w.session.rootFid :: held).Nodup

/-- The invariant, as long as fewer than `2 ^ 32` fids were allocated. -/
def Balanced (table : σ → FidTable Obj) (held : List UInt32) (w : Link σ) : Prop :=
  w.session.fidPool.Ordered ∧ (w.session.fidPool.allocations < 2 ^ 32 → InUse table held w)

section Invariant

variable {table : σ → FidTable Obj} {held held' : List UInt32} {w w' : Link σ}

theorem InUse.perm (inUse : InUse table held w) (same : held.Perm held') : InUse table held' w where
  allocated := by
    rw [inUse.allocated]
    exact List.toFinset_eq_of_perm _ _ (same.cons _)
  bound := by
    rw [inUse.bound]
    ext fid
    exact (same.cons _).mem_iff
  distinct := (same.cons _).nodup_iff.mp inUse.distinct

theorem Balanced.perm (balanced : Balanced table held w) (same : held.Perm held') :
    Balanced table held' w :=
  ⟨balanced.1, fun few => (balanced.2 few).perm same⟩

/-- Nothing has changed but tags and files. -/
theorem Balanced.same (balanced : Balanced table held w)
    (pool : w'.session.fidPool = w.session.fidPool) (root : w'.session.rootFid = w.session.rootFid)
    (bound : (table w'.transport).bound = (table w.transport).bound) : Balanced table held w' := by
  refine ⟨pool ▸ balanced.1, ?_⟩
  intro few
  rw [pool] at few
  obtain ⟨allocated, named, distinct⟩ := balanced.2 few
  constructor
  · rw [pool, root]
    exact allocated
  · rw [bound, root]
    exact named
  · rw [root]
    exact distinct

end Invariant

/-! ### Numbers of path components -/

theorem two_mul_nonempty_le (x : UInt8) (pieces : List Bytes) :
    2 * (pieces.filter (· ≠ [])).length ≤ ([x].intercalate pieces).length + 1 := by
  induction pieces with
  | nil => simp
  | cons piece pieces ih =>
    -- a piece that is not empty takes a byte, and one for its separator
    have first : 2 * ((piece :: pieces).filter (· ≠ [])).length ≤
        (piece.length + 1) + 2 * (pieces.filter (· ≠ [])).length := by
      by_cases empty : piece = []
      · rw [List.filter_cons_of_neg (by simpa using empty)]
        omega
      · rw [List.filter_cons_of_pos (by simpa using empty), List.length_cons]
        have nonempty := List.length_pos_of_ne_nil empty
        omega
    cases pieces with
    | nil =>
      rw [List.intercalate_singleton]
      exact first
    | cons next pieces =>
      rw [List.intercalate_cons_cons, List.length_append, List.length_append]
      simp only [List.length_singleton]
      omega

/-- A path of a received message. -/
def ShortPath (path : Bytes) : Prop := path.length + 2 ≤ maxMessageSize.toNat

/-- The components of a short path can be counted in 16 bits. -/
theorem splitPath_short {path : Bytes} (short : ShortPath path) :
    (splitPath path).length < 2 ^ 16 := by
  have counted : 2 * (splitPath path).length ≤
      ([47].intercalate (path.splitOn 47)).length + 1 := two_mul_nonempty_le 47 (path.splitOn 47)
  rw [List.intercalate_splitOn] at counted
  have bound : path.length + 2 ≤ 131072 := short
  omega

theorem splitParent_length (path : Bytes) : (splitParent path).1.length ≤ path.length := by
  unfold splitParent
  split
  · exact Nat.zero_le _
  · exact List.length_take_le' _ _

/-! ### Session operations -/

section Operations

variable {T : Transport σ} {table : σ → FidTable Obj} {root : Bytes → Obj}
  (conforms : T.Conforms table root) {held : List UInt32} {w : Link σ}

include conforms

theorem call_balanced {α : Type} (balanced : Balanced table held w)
    (build : UInt16 → NinePMessage) (parse : NinePMessage → Option α) (r : Request)
    (keeps : r.keepsFids = true) (same : build w.session.nextTag = r.build w.session.nextTag) :
    Balanced table held (Link.call T build parse w).2 := by
  have ok : w.tagged.exchangeCode T (build w.session.nextTag) = 0 := conforms.delivers _ _
  rw [call_ok parse ok]
  refine balanced.same rfl rfl ?_
  change (table (T.exchange (build w.session.nextTag).data w.transport).2).bound = _
  rw [same]
  exact conforms.others w.transport _ r keeps

/-- `Clunk` gives back the first of the held fids. -/
theorem clunk_balanced {fid : UInt32} (balanced : Balanced table (fid :: held) w) :
    Balanced table held (clunk T fid w).2 := by
  have ok : w.tagged.exchangeCode T (buildTclunk w.session.nextTag fid) = 0 :=
    conforms.delivers _ _
  have called : (clunk T fid w).2 =
      (w.callOnce T fun tag => buildTclunk tag fid).release fid := by
    unfold clunk
    simp only
    rw [call_ok _ ok]
  rw [called]
  refine ⟨balanced.1.release fid, ?_⟩
  intro few
  obtain ⟨allocated, bound, distinct⟩ := balanced.2 few
  obtain ⟨rootFresh, tail⟩ := List.nodup_cons.mp distinct
  obtain ⟨fresh, heldDistinct⟩ := List.nodup_cons.mp tail
  -- the invariant keeps the held fids apart from the root
  have notRoot : fid ≠ w.session.rootFid := by
    rintro rfl
    exact rootFresh List.mem_cons_self
  have isBound : fid ∈ (table w.transport).bound := by
    rw [bound]
    exact List.mem_cons_of_mem _ List.mem_cons_self
  obtain ⟨_, unbound⟩ := conforms.clunk w.transport w.session.nextTag fid isBound
  constructor
  · change w.session.fidPool.allocated.erase fid = (w.session.rootFid :: held).toFinset
    rw [allocated]
    ext other
    by_cases same : other = fid
    · subst same
      simp [notRoot, fresh]
    · simp [same]
  · change (table (T.exchange (buildTclunk w.session.nextTag fid).data w.transport).2).bound =
      {other | other ∈ w.session.rootFid :: held}
    rw [unbound, bound]
    ext other
    by_cases same : other = fid
    · subst same
      simp [notRoot, fresh]
    · simp [same]
  · exact List.nodup_cons.mpr ⟨fun member => rootFresh (List.mem_cons_of_mem _ member),
      heldDistinct⟩

omit conforms in
theorem readReply_answered {α : Type} {parse : NinePMessage → Option α} {request : NinePMessage}
    {tag : UInt16} {r : Response} {a : α} (ok : w.exchangeCode T request = 0)
    (bytes : (T.exchange request.data w.transport).1.2 = (r.encode tag).data)
    (proper : r.type ≠ .rlerror) (parsed : parse (ofData (r.encode tag).data) = some a) :
    readReply parse (w.answer T request) = .ok a := by
  rw [Link.answer, if_neg (not_not_intro ok), bytes, readResponse, isRlerror_encode r tag proper,
    readReply, if_neg (by simp)]
  simp only [parsed]

omit conforms in
theorem readReply_refused {α : Type} {parse : NinePMessage → Option α} {request : NinePMessage}
    {tag : UInt16} {ecode : UInt32} (ok : w.exchangeCode T request = 0)
    (bytes : (T.exchange request.data w.transport).1.2 =
      ((Response.rlerror ecode).encode tag).data) (least : 1 ≤ ecode) :
    readReply parse (w.answer T request) = .error (-ecode.toInt32) := by
  have nonzero : -ecode.toInt32 ≠ 0 := by
    intro zero
    have back : ecode = (0 : Int32).toUInt32 := by
      simpa using congrArg (fun code => (-code).toUInt32) zero
    rw [back] at least
    exact absurd least (by decide)
  rw [Link.answer, if_neg (not_not_intro ok), bytes, readResponse, isRlerror_encode_rlerror,
    readReply, if_pos nonzero]

omit conforms in
theorem parseRwalk_encode {qids : List Qid} (few : qids.length < 2 ^ 16) (tag : UInt16) :
    (parseRwalk [] (ofData ((Response.rwalk qids).encode tag).data)).1 = some qids := by
  have size : (Response.rwalk qids).payload.length = 2 + 13 * qids.length := by
    have each : (qids.flatMap Wire.qid).length = 13 * qids.length := by
      rw [List.length_flatMap]
      simp [Nat.mul_comm]
    simp [Response.payload, each]
  exact parsed_encode (.rwalk qids) tag (consumes_rwalkFields qids few []) (by omega)

omit conforms in
/-- The pool after a `Walk` whose exchange succeeds. -/
theorem walk_pool {path : Bytes} (ok : w.exchangeCode T (buildTwalk w.session.nextTag
    w.session.rootFid w.session.fidPool.nextFid (splitPath path)) = 0) :
    (walk T path w).2.session.fidPool = w.session.fidPool.allocate.2 ∨
      (walk T path w).2.session.fidPool =
        w.session.fidPool.allocate.2.release w.session.fidPool.nextFid := by
  have walked := walk_once ok
  simp only at walked
  rw [walked]
  split
  · exact Or.inr rfl
  · split
    · exact Or.inr rfl
    · exact Or.inl rfl

omit conforms in
/-- The fid that was allocated is not in use on either side. -/
theorem InUse.unused (inUse : InUse table held w) (below : w.session.fidPool.Below) :
    w.session.fidPool.nextFid ∉ w.session.rootFid :: held ∧
      table w.transport w.session.fidPool.nextFid = none := by
  have free : w.session.fidPool.nextFid ∉ w.session.rootFid :: held := by
    rw [← List.mem_toFinset, ← inUse.allocated]
    exact below.fresh
  refine ⟨free, ?_⟩
  by_contra taken
  have member : w.session.fidPool.nextFid ∈ (table w.transport).bound := taken
  rw [inUse.bound] at member
  exact free member

omit conforms in
theorem InUse.walked (inUse : InUse table held w) (below : w.session.fidPool.Below) {w' : Link σ}
    (pool : w'.session.fidPool = w.session.fidPool.allocate.2)
    (root : w'.session.rootFid = w.session.rootFid)
    (bound : (table w'.transport).bound =
      insert w.session.fidPool.nextFid (table w.transport).bound) :
    InUse table (w.session.fidPool.nextFid :: held) w' := by
  obtain ⟨free, _⟩ := inUse.unused below
  have swapped : (w.session.fidPool.nextFid :: w.session.rootFid :: held).Perm
      (w.session.rootFid :: w.session.fidPool.nextFid :: held) := List.Perm.swap _ _ _
  constructor
  · rw [pool, root, ← List.toFinset_eq_of_perm _ _ swapped, List.toFinset_cons, ← inUse.allocated]
    rfl
  · rw [bound, root, inUse.bound]
    ext fid
    rw [Set.mem_ofPred_eq, ← swapped.mem_iff, List.mem_cons]
    rfl
  · rw [root]
    exact swapped.nodup_iff.mp (List.nodup_cons.mpr ⟨free, inUse.distinct⟩)

omit conforms in
theorem InUse.unwalked (inUse : InUse table held w) (below : w.session.fidPool.Below) {w' : Link σ}
    (pool : w'.session.fidPool =
      w.session.fidPool.allocate.2.release w.session.fidPool.nextFid)
    (root : w'.session.rootFid = w.session.rootFid)
    (bound : (table w'.transport).bound = (table w.transport).bound) : InUse table held w' := by
  constructor
  · rw [pool, root, ← inUse.allocated]
    exact Finset.erase_insert below.fresh
  · rw [bound, root]
    exact inUse.bound
  · rw [root]
    exact inUse.distinct

/-- `Walk` adds a fid if it succeeds and none if it fails. -/
theorem walk_balanced {path : Bytes} (short : (splitPath path).length < 2 ^ 16)
    (balanced : Balanced table held w) :
    Balanced table ((walk T path w).1.toOption.toList ++ held) (walk T path w).2 := by
  have ok : w.exchangeCode T (buildTwalk w.session.nextTag w.session.rootFid
    w.session.fidPool.nextFid (splitPath path)) = 0 := conforms.delivers _ _
  -- every `Walk` takes one fid from the pool, also one that gives it back
  have after : (walk T path w).2.session.fidPool.Ordered ∧
      (walk T path w).2.session.fidPool.allocations = w.session.fidPool.allocations + 1 := by
    rcases walk_pool ok with pool | pool
    · rw [pool]
      exact ⟨balanced.1.allocate, rfl⟩
    · rw [pool]
      exact ⟨balanced.1.allocate.release _, rfl⟩
  refine ⟨after.1, ?_⟩
  intro few
  rw [after.2] at few
  have inUse := balanced.2 (Nat.lt_of_succ_lt few)
  have below := (balanced.1 (Nat.lt_of_succ_lt few)).1
  have rootBound : table w.transport w.session.rootFid ≠ none := by
    have member : w.session.rootFid ∈ (table w.transport).bound := by
      rw [inUse.bound]
      exact List.mem_cons_self
    exact member
  have answered := conforms.walk w.transport w.session.nextTag _ _ _ short rootBound
    (inUse.unused below).2
  have walked := walk_once ok
  simp only at walked
  rw [walked]
  rcases answered with ⟨ecode, least, _, bytes, same⟩ | ⟨qids, part, bytes, same⟩ |
    ⟨qids, whole, bytes, added⟩
  · -- refused
    rw [readReply_refused ok bytes least]
    exact inUse.unwalked below rfl rfl same
  · -- resolved in part: the server binds nothing
    have parsed := parseRwalk_encode (Nat.lt_trans part short) w.session.nextTag
    rw [readReply_answered ok bytes nofun parsed]
    simp only
    rw [if_pos (Nat.ne_of_lt part)]
    exact inUse.unwalked below rfl rfl same
  · -- resolved
    have parsed := parseRwalk_encode (whole ▸ short) w.session.nextTag
    rw [readReply_answered ok bytes nofun parsed]
    simp only
    rw [if_neg (not_not_intro whole)]
    exact inUse.walked below rfl rfl added

theorem walk_result {path : Bytes} (short : ShortPath path) (balanced : Balanced table held w)
    {result : Except Int32 UInt32} {w' : Link σ} (found : walk T path w = (result, w')) :
    Balanced table (result.toOption.toList ++ held) w' := by
  have walked := walk_balanced conforms (splitPath_short short) balanced
  rw [found] at walked
  exact walked

theorem walkParent_result {path : Bytes} (short : ShortPath path)
    (balanced : Balanced table held w) {result : Except Int32 (UInt32 × Bytes)} {w' : Link σ}
    (found : walkParent T path w = (result, w')) :
    Balanced table ((result.toOption.map Prod.fst).toList ++ held) w' := by
  have parentShort : ShortPath (splitParent path).1 :=
    Nat.le_trans (Nat.add_le_add_right (splitParent_length path) 2) short
  unfold walkParent at found
  simp only at found
  split at found
  · cases found
    exact balanced
  · cases walked : walk T (splitParent path).1 w with
    | mk reached w₁ =>
      have step := walk_result conforms parentShort balanced walked
      rw [walked] at found
      cases reached with
      | error rc =>
        cases found
        exact step
      | ok fid =>
        cases found
        exact step

end Operations

end Virtio9p
