import Virtio9p.Protocol.Bounds
import Virtio9p.Server.EntryServer
import Virtio9p.Server.TreeServer

/-!
# A server with a list of entries

A conforming server whose objects are numbers and whose directories are a list of entries.
-/
namespace Virtio9p

open Cursor NinePMessage

/-- A name that the server's file system can store. -/
abbrev EntryName := { name : Bytes // name.length ≤ 255 }

/-- The entries are directory, name and object. -/
structure Listing where
  fids : FidTable Nat
  entries : List (Nat × EntryName × Nat)

/-- The objects that the names of a walk lead to, as far as there are any. -/
def reached {ν : Type} (lookup : ν → Bytes → Option ν) : ν → List Bytes → List ν
  | _, [] => []
  | object, name :: names =>
    match lookup object name with
    | none => []
    | some next => next :: reached lookup next names

theorem reached_lost {ν : Type} {lookup : ν → Bytes → Option ν} {start : ν} {names : List Bytes}
    (lost : locate lookup start names = none) :
    (reached lookup start names).length < names.length := by
  induction names generalizing start with
  | nil => cases lost
  | cons name names ih =>
    unfold reached
    cases step : lookup start name with
    | none => exact Nat.succ_pos _
    | some next =>
      have rest : locate lookup next names = none := by
        unfold locate at lost ⊢
        rw [List.foldlM_cons, step] at lost
        exact lost
      exact Nat.succ_lt_succ (ih rest)

namespace Listing

variable (l : Listing)

def lookup (directory : Nat) (name : Bytes) : Option Nat :=
  (l.entries.find? fun entry => entry.1 = directory ∧ entry.2.1.val = name).map fun entry =>
    entry.2.2

def view : EntryServer Nat := ⟨l.fids, l.lookup⟩

def bind (fid : UInt32) (object : Option Nat) : Listing :=
  { l with fids := Function.update l.fids fid object }

def remove (directory : Nat) (name : Bytes) : Listing :=
  { l with entries := l.entries.filter fun entry => ¬ (entry.1 = directory ∧ entry.2.1.val = name) }

/-- No entry of the directory is listed. -/
def vacant (object : Nat) : Bool := l.entries.all fun entry => entry.1 ≠ object

def walk (fid newfid : UInt32) (names : List Bytes) : Response × Listing :=
  match l.fids fid with
  | none => (.rlerror 9, l)
  | some start =>
    if maxWalkNames < names.length ∨ newfid ≠ fid ∧ l.fids newfid ≠ none then (.rlerror 22, l)
    else
      match locate l.lookup start names with
      | some object => (.rwalk (List.replicate names.length ⟨0, 0, 0⟩), l.bind newfid (some object))
      | none =>
        let count := (reached l.lookup start names).length
        if count = 0 then (.rlerror 2, l) else (.rwalk (List.replicate count ⟨0, 0, 0⟩), l)

def unlinkat (mode : Nat → UInt32) (fid : UInt32) (name : Bytes) (flags : UInt32) :
    Response × Listing :=
  match l.fids fid with
  | none => (.rlerror 9, l)
  | some directory =>
    match l.lookup directory name with
    | none => (.rlerror 2, l)
    | some object =>
      if IsDirectory (mode object) then
        if flags &&& linuxAtRemovedir = 0 then (.rlerror 21, l)
        else if l.vacant object then (.runlinkat, l.remove directory name)
        else (.rlerror 39, l)
      else if flags &&& linuxAtRemovedir ≠ 0 then (.rlerror 20, l)
      else (.runlinkat, l.remove directory name)

/-- The answer to a request and the server after it. -/
def serve (mode : Nat → UInt32) : Request → Response × Listing
  | .twalk fid newfid names => l.walk fid newfid names
  | .tlopen fid _ =>
    match l.fids fid with
    | none => (.rlerror 9, l)
    | some _ => (.rlopen ⟨0, 0, 0⟩ 0, l)
  | .tgetattr fid _ =>
    match l.fids fid with
    | none => (.rlerror 9, l)
    | some object => (.rgetattr { NinePStat.zero with mode := mode object }, l)
  | .tclunk fid =>
    match l.fids fid with
    | none => (.rlerror 9, l)
    | some _ => (.rclunk, l.bind fid none)
  | .tunlinkat fid name flags => l.unlinkat mode fid name flags
  | _ => (.rlerror 95, l)

variable {l}

theorem vacant_iff (object : Nat) : l.vacant object = true ↔ l.view.Vacant object := by
  simp only [vacant, List.all_eq_true, decide_eq_true_eq, EntryServer.Vacant, view, lookup,
    Option.map_eq_none_iff, List.find?_eq_none, not_and]
  constructor
  · intro apart name entry member same
    exact absurd same (apart entry member)
  · intro nothing entry member same
    exact nothing entry.2.1.val entry member same rfl

theorem lookup_short {directory object : Nat} {name : Bytes}
    (there : l.lookup directory name = some object) : name.length ≤ 255 := by
  obtain ⟨entry, found, -⟩ := Option.map_eq_some_iff.mp there
  have matched := List.find?_some found
  rw [← (of_decide_eq_true matched).2]
  exact entry.2.1.property

theorem view_remove (directory : Nat) (name : Bytes) :
    (l.remove directory name).view = l.view.remove directory name := by
  refine congrArg (EntryServer.mk l.fids) ?_
  funext directory' name'
  show (l.remove directory name).lookup directory' name' =
    Function.update l.lookup directory (Function.update (l.lookup directory) name none)
      directory' name'
  simp only [lookup, remove, List.find?_filter]
  by_cases same : directory' = directory ∧ name' = name
  · obtain ⟨rfl, rfl⟩ := same
    rw [Function.update_self, Function.update_self, Option.map_eq_none_iff, List.find?_eq_none]
    intro entry _
    simp only [decide_eq_true_eq]
    rintro ⟨out, there⟩
    exact out there
  · -- the entries that are left out are no others than those of the name
    have kept : ∀ entry : Nat × EntryName × Nat, (entry.1 = directory' ∧ entry.2.1.val = name') →
        ¬ (entry.1 = directory ∧ entry.2.1.val = name) := by
      rintro entry ⟨rfl, rfl⟩
      exact same
    have sameEntries : (fun entry : Nat × EntryName × Nat =>
        decide (decide (¬ (entry.1 = directory ∧ entry.2.1.val = name)) = true ∧
          decide (entry.1 = directory' ∧ entry.2.1.val = name') = true)) =
        fun entry => decide (entry.1 = directory' ∧ entry.2.1.val = name') := by
      funext entry
      simp only [decide_eq_true_eq]
      exact decide_eq_decide.mpr ⟨And.right, fun there => ⟨kept entry there, there⟩⟩
    rw [sameEntries]
    by_cases inside : directory' = directory
    · subst inside
      rw [Function.update_self, Function.update_of_ne fun name => same ⟨rfl, name⟩]
      rfl
    · rw [Function.update_of_ne inside]
      rfl

theorem walk_finds {fid newfid : UInt32} {names : List Bytes} {start object : Nat}
    (few : names.length ≤ maxWalkNames) (here : l.fids fid = some start)
    (bindable : l.view.Bindable fid newfid) (found : locate l.lookup start names = some object) :
    l.walk fid newfid names =
      (.rwalk (List.replicate names.length ⟨0, 0, 0⟩), l.bind newfid (some object)) := by
  have allowed : ¬ (maxWalkNames < names.length ∨ newfid ≠ fid ∧ l.fids newfid ≠ none) := by
    rintro (many | ⟨other, bound⟩)
    · exact absurd few (Nat.not_le_of_lt many)
    · exact bindable.elim other bound
  simp only [walk, here, if_neg allowed, found]

theorem walk_misses {fid newfid : UInt32} {names : List Bytes} {start : Nat}
    (here : l.fids fid = some start) (lost : locate l.lookup start names = none) :
    (l.walk fid newfid names).2 = l ∧
      ((∃ ecode : UInt32, 1 ≤ ecode ∧ ecode ≤ 4095 ∧ (l.walk fid newfid names).1 = .rlerror ecode) ∨
        ∃ qids, qids.length < names.length ∧ (l.walk fid newfid names).1 = .rwalk qids) := by
  simp only [walk, here, lost]
  split
  · exact ⟨rfl, .inl ⟨22, by decide, by decide, rfl⟩⟩
  · split
    · exact ⟨rfl, .inl ⟨2, by decide, by decide, rfl⟩⟩
    · exact ⟨rfl, .inr ⟨_, (List.length_replicate).trans_lt (reached_lost lost), rfl⟩⟩

theorem walk_refuses {fid newfid : UInt32} {names : List Bytes}
    (refused : maxWalkNames < names.length ∨ ¬ l.view.Bindable fid newfid) :
    ∃ ecode : UInt32, 1 ≤ ecode ∧ ecode ≤ 4095 ∧ l.walk fid newfid names = (.rlerror ecode, l) := by
  unfold walk
  cases l.fids fid with
  | none => exact ⟨9, by decide, by decide, rfl⟩
  | some start =>
    refine ⟨22, by decide, by decide, if_pos (refused.imp_right ?_)⟩
    intro unbindable
    exact not_or.mp unbindable

/-- No answer to a walk has more qids than a walk may have names. -/
theorem walk_answers (fid newfid : UInt32) (names : List Bytes) :
    (∃ ecode : UInt32, 1 ≤ ecode ∧ ecode ≤ 4095 ∧ (l.walk fid newfid names).1 = .rlerror ecode) ∨
      ∃ qids, qids.length ≤ maxWalkNames ∧ (l.walk fid newfid names).1 = .rwalk qids := by
  by_cases refused : maxWalkNames < names.length ∨ ¬ l.view.Bindable fid newfid
  · obtain ⟨ecode, least, most, answer⟩ := walk_refuses refused
    exact .inl ⟨ecode, least, most, congrArg Prod.fst answer⟩
  rw [not_or, not_not, Nat.not_lt] at refused
  cases here : l.fids fid with
  | none => exact .inl ⟨9, by decide, by decide, by rw [walk, here]⟩
  | some start =>
    cases found : locate l.lookup start names with
    | some object =>
      refine .inr ⟨_, ?_, congrArg Prod.fst (walk_finds refused.1 here refused.2 found)⟩
      rw [List.length_replicate]
      exact refused.1
    | none =>
      refine (walk_misses here found).2.imp_right ?_
      rintro ⟨qids, fewer, answer⟩
      exact ⟨qids, fewer.le.trans refused.1, answer⟩

theorem unlinkat_unlinked {mode : Nat → UInt32} {fid : UInt32} {directory : Nat}
    (here : l.fids fid = some directory) (name : Bytes) (flags : UInt32) :
    l.view.Unlinked mode directory name flags (l.unlinkat mode fid name flags).1
      (l.unlinkat mode fid name flags).2.view := by
  simp only [unlinkat, here]
  cases there : l.lookup directory name with
  | none => exact .missing there
  | some object =>
    by_cases kind : IsDirectory (mode object)
    · by_cases flag : flags &&& linuxAtRemovedir = 0
      · simp only [if_pos kind, if_pos flag]
        exact .isDirectory object there kind flag
      · cases vacant : l.vacant object with
        | false =>
          simp only [if_pos kind, if_neg flag, vacant]
          refine .notEmpty object there kind ?_
          rw [← vacant_iff, vacant]
          exact Bool.false_ne_true
        | true =>
          simp only [if_pos kind, if_neg flag, vacant, if_true, view_remove]
          exact .removed object there (iff_of_true flag kind) fun _ =>
            vacant_iff object |>.mp vacant
    · by_cases flag : flags &&& linuxAtRemovedir = 0
      · simp only [if_neg kind, flag, ne_eq, not_true_eq_false, if_false, view_remove]
        exact .removed object there (iff_of_false (not_not_intro flag) kind) fun a => absurd a kind
      · simp only [if_neg kind, ne_eq, flag, not_false_eq_true, if_true]
        exact .notDirectory object there kind flag

end Listing

/-! ### A server that reads the bytes -/

/-- The requests that `Listing.serve` answers. -/
def entryRequests : List MessageType := [.twalk, .tlopen, .tgetattr, .tclunk, .tunlinkat]

def listedServer (mode : Nat → UInt32) : Transport Listing where
  exchange request l :=
    let tag := UInt16.ofNat (LittleEndian.decode ((request.drop 5).take 2))
    let answer : Response × Listing :=
      match Request.readIn entryRequests request with
      | none => (.rlerror 5, l)
      | some r => l.serve mode r
    ((0, (answer.1.encode tag).data), answer.2)

theorem listedServer_exchange {r : Request} (sized : r.Sized) (kind : r.type ∈ entryRequests)
    (mode : Nat → UInt32) (tag : UInt16) (l : Listing) :
    (listedServer mode).exchange (r.build tag).data l =
      ((0, ((l.serve mode r).1.encode (r.sentTag tag)).data), (l.serve mode r).2) := by
  simp only [listedServer, Request.readIn_build sized kind, Request.tag_build]

/-- A message that is longer than its count says is read as a Twalk all the same. -/
theorem readIn_twalk {types : List MessageType} (tag : UInt16) (fid newfid : UInt32)
    (names : List Bytes) :
    Request.readIn types (buildTwalk tag fid newfid names).data = none ∨ ∃ fid' newfid' names',
      Request.readIn types (buildTwalk tag fid newfid names).data =
        some (.twalk fid' newfid' names') := by
  have type : (ofData (buildTwalk tag fid newfid names).data).getType = MessageType.twalk.code :=
    getType_of_header ((Request.twalk fid newfid names).build_data tag)
  unfold Request.readIn
  simp only [type]
  cases found : types.find? fun type => type.code = MessageType.twalk.code with
  | none => exact .inl rfl
  | some type =>
    have same := List.find?_some found
    rw [MessageType.code_injective (of_decide_eq_true same)]
    right
    simp only [Option.bind_some, Request.readFields, bind_run, pure_run, Option.some.injEq,
      Request.twalk.injEq]
    exact ⟨_, _, _, rfl, rfl, rfl⟩

theorem sized_twalk {names : List Bytes} (short : ShortNames names)
    (counted : names.length < 2 ^ 16)
    (fid newfid : UInt32) : (Request.twalk fid newfid names).Sized := by
  refine ⟨⟨counted, fun name member => (short name member).trans_lt (by decide)⟩, ?_⟩
  have bytes : (names.flatMap Wire.str).length ≤ 257 * names.length := by
    clear counted
    induction names with
    | nil => exact Nat.le_refl 0
    | cons name names ih =>
      have rest := ih fun name member => short name (.tail _ member)
      have first := short name (.head _)
      simp only [List.flatMap_cons, List.length_append, Wire.str_length, List.length_cons]
      omega
  simp only [Request.payload, List.length_append, Wire.u32_length, Wire.u16_length]
  omega

theorem sized_tunlinkat {name : Bytes} (short : name.length ≤ 255) (fid flags : UInt32) :
    (Request.tunlinkat fid name flags).Sized := by
  refine ⟨short.trans_lt (by decide), ?_⟩
  simp only [Request.payload, List.length_append, Wire.u32_length, Wire.str_length]
  omega

theorem listedServer_walks (mode : Nat → UInt32) : (listedServer mode).Walks Listing.view := by
  -- the server reads back a Twalk whose names can be counted
  have answered : ∀ l tag fid newfid names, ShortNames names → names.length < 2 ^ 16 →
      (listedServer mode).exchange (buildTwalk tag fid newfid names).data l =
        ((0, ((l.walk fid newfid names).1.encode tag).data), (l.walk fid newfid names).2) :=
    fun l tag fid newfid names short counted =>
      listedServer_exchange (sized_twalk short counted fid newfid) (.head _) mode tag l
  have counts : ∀ names : List Bytes, names.length ≤ maxWalkNames → names.length < 2 ^ 16 :=
    fun names few => few.trans_lt (by decide)
  constructor
  case delivers => exact fun s tag fid newfid names => rfl
  case finds =>
    intro l tag fid newfid names start object short few here bindable found
    rw [answered l tag fid newfid names short (counts names few),
      Listing.walk_finds few here bindable found]
    exact ⟨⟨_, List.length_replicate, rfl⟩, rfl⟩
  case misses =>
    intro l tag fid newfid names start short few here _ lost
    rw [answered l tag fid newfid names short (counts names few)]
    obtain ⟨same, answer⟩ := Listing.walk_misses here lost
    refine ⟨?_, congrArg Listing.view same⟩
    rcases answer with ⟨ecode, least, most, answer⟩ | ⟨qids, fewer, answer⟩
    · exact .inl ⟨ecode, least, most, by rw [answer]⟩
    · exact .inr ⟨_, fewer, qids, rfl, by rw [answer]⟩
  case refuses =>
    intro l tag fid newfid names short counted refused
    obtain ⟨ecode, least, most, answer⟩ := Listing.walk_refuses refused
    rw [answered l tag fid newfid names short counted, answer]
    exact ⟨⟨ecode, least, most, rfl⟩, rfl⟩
  case uncounted =>
    intro l tag fid newfid names _ _
    have echoed : UInt16.ofNat (LittleEndian.decode
        (((buildTwalk tag fid newfid names).data.drop 5).take 2)) = tag :=
      (Request.twalk fid newfid names).tag_build tag
    simp only [listedServer, echoed]
    rcases readIn_twalk tag fid newfid names with unread | ⟨fid', newfid', names', read⟩
    · rw [unread]
      exact .inl ⟨5, by decide, by decide, rfl⟩
    · rw [read]
      rcases l.walk_answers fid' newfid' names' with
        ⟨ecode, least, most, answer⟩ | ⟨qids, few, answer⟩
      · exact .inl ⟨ecode, least, most, congrArg (fun r => (r.encode tag).data) answer⟩
      · refine .inr ⟨_, few.trans_lt (by decide), qids, rfl, ?_⟩
        exact congrArg (fun r => (r.encode tag).data) answer

theorem listedServer_serves (mode : Nat → UInt32) :
    (listedServer mode).ServesEntries Listing.view mode := by
  refine { listedServer_walks mode with
    short := ?_, lopen := ?_, getattr := ?_, clunk := ?_, unlinkat := ?_ }
  · intro l directory name object there
    exact Listing.lookup_short there
  · intro l tag fid flags
    have sized : (Request.tlopen fid flags).Sized := ⟨trivial, by simp [Request.payload]⟩
    have answered := listedServer_exchange sized (.tail _ (.head _)) mode tag l
    rw [Request.build] at answered
    rw [answered]
    refine ⟨rfl, ?_⟩
    simp only [Listing.serve]
    cases l.fids fid <;> rfl
  · intro l tag fid object here
    have bound : l.fids fid = some object := here
    have sized : (Request.tgetattr fid getattrBasic).Sized := ⟨trivial, by simp [Request.payload]⟩
    have answered := listedServer_exchange sized (.tail _ (.tail _ (.head _))) mode tag l
    simp only [Listing.serve, bound, Request.build, Request.sentTag] at answered
    exact ⟨_, l, answered, rfl, .inr ⟨_, rfl, rfl⟩⟩
  · intro l tag fid bound
    obtain ⟨object, here⟩ := Option.ne_none_iff_exists'.mp bound
    have there : l.fids fid = some object := here
    have sized : (Request.tclunk fid).Sized := ⟨trivial, by simp [Request.payload]⟩
    have answered := listedServer_exchange sized (.tail _ (.tail _ (.tail _ (.head _)))) mode tag l
    simp only [Listing.serve, there, Request.build, Request.sentTag] at answered
    exact ⟨_, answered, rfl⟩
  · intro l tag fid name flags directory here short
    have answered := listedServer_exchange (sized_tunlinkat short fid flags)
      (.tail _ (.tail _ (.tail _ (.tail _ (.head _))))) mode tag l
    simp only [Listing.serve, Request.sentTag, Request.build] at answered
    exact ⟨_, _, answered, Listing.unlinkat_unlinked here name flags⟩

/-- A session whose fid 0 is attached to the directory 0 of a list of entries. -/
def listedSession (entries : List (Nat × EntryName × Nat)) : Link Listing :=
  ⟨NinePSession.new.allocateFid.2, ⟨FidTable.single 0 0, entries⟩, []⟩

end Virtio9p
