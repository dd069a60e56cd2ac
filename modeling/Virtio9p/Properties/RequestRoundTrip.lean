import Virtio9p.Protocol.Request

/-!
# Round trip of requests

What a builder puts on the wire is framed, reads back field by field and determines
the call that built it.
-/
namespace Virtio9p

open Cursor NinePMessage

namespace Request

/-- The header accessors give back what the builder was told. -/
def Framed (r : Request) (tag : UInt16) : Prop :=
  (r.build tag).getSize.toNat = (r.build tag).data.length ∧
    (r.build tag).getType = r.type.code ∧ (r.build tag).getTag = r.sentTag tag

/-- Reading the payload gives the arguments back and ends where the message ends. -/
def ReadsBack (r : Request) (tag : UInt16) : Prop :=
  let m := ofData (r.build tag).data
  readFields r.type m = (some r, { m with readOffset := UInt32.ofNat m.data.length })

theorem framed (r : Request) (tag : UInt16) (small : (r.build tag).data.length < 2 ^ 32) :
    r.Framed tag := by
  refine ⟨?_, getType_of_header (r.build_data tag), getTag_of_header (r.build_data tag) small⟩
  rw [getSize_of_header (r.build_data tag) small, UInt32.toNat_ofNat']
  rw [build_length] at small ⊢
  omega

theorem readsBack (r : Request) (tag : UInt16) (fits : r.Fits)
    (small : (r.build tag).data.length < 2 ^ 32) : r.ReadsBack tag :=
  decoder_whole (m := ofData (r.build tag).data) (consumes_readFields r fits)
    (by rw [ofData, build_length]; exact Nat.le_add_right 7 _) (drop_header (r.build_data tag))
    small rfl

theorem type_eq_of_build {r r' : Request} {tag tag' : UInt16}
    (same : (r.build tag).data = (r'.build tag').data) : r.type = r'.type := by
  apply MessageType.code_injective
  rw [← getType_of_header (r.build_data tag), ← getType_of_header (r'.build_data tag'),
    getType, getType, byteAt, byteAt, same]

/-- The bytes determine the request and the tag that was sent. -/
theorem build_injective {r r' : Request} {tag tag' : UInt16} (fits : r.Fits) (fits' : r'.Fits)
    (small : (r.build tag).data.length < 2 ^ 32)
    (same : (r.build tag).data = (r'.build tag').data) :
    r = r' ∧ r.sentTag tag = r'.sentTag tag' := by
  have small' : (r'.build tag').data.length < 2 ^ 32 := same ▸ small
  have type : r.type = r'.type := type_eq_of_build same
  have read : readFields r.type (ofData (r.build tag).data) = _ := r.readsBack tag fits small
  have read' : readFields r'.type (ofData (r'.build tag').data) = _ :=
    r'.readsBack tag' fits' small'
  rw [same, type, read'] at read
  refine ⟨(Option.some.inj (congrArg Prod.fst read)).symm, ?_⟩
  rw [← getTag_of_header (r.build_data tag) small, ← getTag_of_header (r'.build_data tag') small',
    getTag, getTag, byteAt, byteAt, byteAt, byteAt, same]

end Request

/-- Every builder call is framed, reads back, and is determined by its bytes. -/
theorem request_round_trip (r : Request) (tag : UInt16) (fits : r.Fits)
    (small : (r.build tag).data.length < 2 ^ 32) :
    r.Framed tag ∧ r.ReadsBack tag ∧
      ∀ r' tag', r'.Fits → (r.build tag).data = (r'.build tag').data →
        r = r' ∧ r.sentTag tag = r'.sentTag tag' :=
  ⟨r.framed tag small, r.readsBack tag fits small,
    fun _ _ fits' same => Request.build_injective fits fits' small same⟩

theorem request_round_trip_twalk :
    let r := Request.twalk 0 1 [[100], [97, 98]]
    r.Framed 3 ∧ r.ReadsBack 3 ∧
      ∀ r' tag', r'.Fits → (r.build 3).data = (r'.build tag').data →
        r = r' ∧ r.sentTag 3 = r'.sentTag tag' :=
  request_round_trip (.twalk 0 1 [[100], [97, 98]]) 3 (by decide) (by decide +kernel)

end Virtio9p
