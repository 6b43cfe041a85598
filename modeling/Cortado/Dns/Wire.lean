import Mathlib.Data.List.Basic
import Mathlib.Algebra.Order.Ring.Nat

/-!
# DNS over TCP on the wire

A message travels behind its length in two big-endian bytes, and its own first
two bytes are its identifier.  The pool replaces the identifier of a query by
one that is free on the connection and puts the caller's back into the reply.
-/

namespace Cortado.Dns

abbrev Message := List UInt8

/-- `u16::to_be_bytes`. -/
def toBeBytes (value : UInt16) : List UInt8 :=
  [UInt8.ofNat (value.toNat / 256), UInt8.ofNat (value.toNat % 256)]

/-- `u16::from_be_bytes`. -/
def fromBeBytes (high low : UInt8) : UInt16 :=
  UInt16.ofNat (high.toNat * 256 + low.toNat)

/-- A message behind its length. -/
def encode (body : Message) : List UInt8 :=
  toBeBytes (UInt16.ofNat body.length) ++ body

/-- A query under a new identifier, written over the encoded message. -/
def frame (id : UInt16) (query : Message) : List UInt8 :=
  let framed := encode query
  (framed.set 2 (UInt8.ofNat (id.toNat / 256))).set 3
    (UInt8.ofNat (id.toNat % 256))

/-- The identifier of a message, if it is long enough to have one. -/
def messageId : Message → Option UInt16
  | high :: low :: _ => some (fromBeBytes high low)
  | _ => none

/-- A reply with the identifier of the query the caller sent. -/
def restoreId (query reply : Message) : Message :=
  match query with
  | first :: second :: _ => (reply.set 0 first).set 1 second
  | _ => reply

theorem fromBeBytes_toNat (high low : UInt8) :
    (fromBeBytes high low).toNat = high.toNat * 256 + low.toNat := by
  have highBound := high.toNat_lt
  have lowBound := low.toNat_lt
  simp only [fromBeBytes, UInt16.toNat_ofNat']
  omega

theorem fromBeBytes_of_toNat (value : Nat) (bound : value < 65536) :
    (fromBeBytes (UInt8.ofNat (value / 256))
      (UInt8.ofNat (value % 256))).toNat = value := by
  simp only [fromBeBytes_toNat, UInt8.toNat_ofNat']
  omega

theorem toBeBytes_fromBeBytes (high low : UInt8) :
    toBeBytes (fromBeBytes high low) = [high, low] := by
  have lowBound := low.toNat_lt
  have highPart : (high.toNat * 256 + low.toNat) / 256 = high.toNat := by
    omega
  have lowPart : (high.toNat * 256 + low.toNat) % 256 = low.toNat := by
    omega
  rw [toBeBytes, fromBeBytes_toNat, highPart, lowPart, UInt8.ofNat_toNat,
    UInt8.ofNat_toNat]

theorem exists_toBeBytes (value : UInt16) :
    ∃ high low, toBeBytes value = [high, low] ∧ fromBeBytes high low = value := by
  refine ⟨_, _, rfl, ?_⟩
  apply UInt16.toNat_inj.mp
  exact fromBeBytes_of_toNat value.toNat value.toNat_lt

theorem length_encode (body : Message) :
    (encode body).length = 2 + body.length := by
  simp only [encode, toBeBytes, List.length_append, List.length_cons,
    List.length_nil]

/-- The frame written for a query is its length, the new identifier and the
rest of the query. -/
theorem frame_eq {id : UInt16} {query : Message}
    (hasId : 2 ≤ query.length) :
    frame id query =
      toBeBytes (UInt16.ofNat query.length) ++ toBeBytes id ++
        query.drop 2 := by
  cases query with
  | nil => simp at hasId
  | cons first rest =>
      cases rest with
      | nil => simp at hasId
      | cons second rest => rfl

theorem length_of_messageId {body : Message} {id : UInt16}
    (identified : messageId body = some id) : 2 ≤ body.length := by
  unfold messageId at identified
  split at identified
  · simp
  · cases identified

/-- Only the first two bytes of a reply change. -/
theorem restoreId_eq {query reply : Message} (hasId : 2 ≤ query.length)
    (isReply : 2 ≤ reply.length) :
    restoreId query reply = query.take 2 ++ reply.drop 2 := by
  match query, reply, hasId, isReply with
  | first :: second :: _, _ :: _ :: _, _, _ => rfl

end Cortado.Dns
