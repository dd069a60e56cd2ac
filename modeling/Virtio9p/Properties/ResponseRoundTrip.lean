import Virtio9p.Protocol.Parser

/-!
# Round trip of responses

Every response, encoded with the encoder helpers, is read back by the parser of its
type and rejected by the parsers of all other types.
-/
namespace Virtio9p

open Cursor NinePMessage

/-- Where the parser leaves the read offset: `IsRlerror` reads a copy, every other
parser goes to the end of the message. -/
def readTo (r : Response) (m : NinePMessage) : NinePMessage :=
  if r.type = .rlerror then m else { m with readOffset := UInt32.ofNat m.data.length }

private theorem parseResponse_encode (r : Response) (tag : UInt16) (fits : r.Fits)
    (small : (r.encode tag).data.length < 2 ^ 32) :
    parseResponse r.type (ofData (r.encode tag).data) =
      (some r, readTo r (ofData (r.encode tag).data)) := by
  let m := ofData (r.encode tag).data
  have framed : m.data = header (UInt32.ofNat (7 + r.payload.length)) r.type tag ++ r.payload :=
    r.encode_data tag
  have long : 7 ≤ m.data.length := by
    rw [length_of_header framed]
    exact Nat.le_add_right 7 _
  have unread : m.data.drop 7 = r.payload ++ [] := by
    rw [List.append_nil, drop_header framed]
  by_cases error : r.type = .rlerror
  · cases r with
    | rlerror ecode =>
      have code := isRlerror_prefix (getType_of_header framed) long small unread
      change ((isRlerror m).map Response.rlerror, m) = _
      rw [code]
      rfl
    | _ => cases error
  · obtain ⟨m', run, ready, rest, frame⟩ := parseResponse_prefix r fits error
      (getType_of_header framed) rfl ⟨small, long, rfl⟩ unread
    rw [run, readOffset_of_rest_nil ready rest frame rfl, readTo, if_neg error]

/-- Encoding and parsing a response gives it back, and only its own parser accepts it. -/
theorem response_round_trip (r : Response) (tag : UInt16) (fits : r.Fits)
    (small : (r.encode tag).data.length < 2 ^ 31) :
    let m := ofData (r.encode tag).data
    parseResponse r.type m = (some r, readTo r m) ∧
      ∀ kind, kind ≠ r.type → (parseResponse kind m).1 = none := by
  intro m
  refine ⟨parseResponse_encode r tag fits (by omega), ?_⟩
  intro kind other
  apply parseResponse_other
  rw [getType_of_header (m := m) (r.encode_data tag)]
  exact fun same => other (MessageType.code_injective same).symm

theorem response_round_trip_rreaddir :
    let r := Response.rreaddir [⟨⟨0x80, 1, 2⟩, 1, 4, [46]⟩, ⟨⟨0, 3, 5⟩, 2, 8, [97, 98]⟩]
    let m := ofData (r.encode 7).data
    parseResponse r.type m = (some r, readTo r m) ∧
      ∀ kind, kind ≠ r.type → (parseResponse kind m).1 = none :=
  response_round_trip (.rreaddir [⟨⟨0x80, 1, 2⟩, 1, 4, [46]⟩, ⟨⟨0, 3, 5⟩, 2, 8, [97, 98]⟩]) 7
    (by simp [Response.Fits, Response.dirSize]) (by decide +kernel)

end Virtio9p
