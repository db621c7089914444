import Mathlib.Data.List.Basic
import Mathlib.Data.Nat.Basic

namespace Rteipc

/-! Framed messages of `message.c`: four bytes of length in network order, then
the payload. An evbuffer is the queue of its bytes. -/

abbrev Evbuffer := List UInt8

/-- The four bytes `evbuffer_prepend(buf, &nl, 4)` takes from `nl =
htonl(len)` on a little-endian host. `htonl` keeps the low 32 bits of `len`. -/
def htonl (len : Nat) : List UInt8 :=
  [UInt8.ofNat (len / 16777216), UInt8.ofNat (len / 65536), UInt8.ofNat (len / 256), UInt8.ofNat len]

def ntohl (b₀ b₁ b₂ b₃ : UInt8) : Nat :=
  b₀.toNat * 16777216 + b₁.toNat * 65536 + b₂.toNat * 256 + b₃.toNat

/-- The completeness test adds 4 to an `ev_uint32_t`, so it wraps at 2^32. -/
def msgLength (buf : Evbuffer) : Nat :=
  match buf with
  | b₀ :: b₁ :: b₂ :: b₃ :: _ =>
      let msglen := ntohl b₀ b₁ b₂ b₃
      if buf.length < (msglen + 4) % 4294967296 then 0 else msglen
  | _ => 0

inductive DrainResult where
  | empty
  | failed
  | message (size : Nat) (msg : List UInt8)
deriving DecidableEq, Repr

/-- The value `rteipc_msg_drain` returns. -/
def DrainResult.ret : DrainResult → Int
  | .empty => 0
  | .failed => -1
  | .message _ _ => 1

/-- `malloc` tells which sizes can be allocated. `evbuffer_remove` copies what
the buffer holds of the `len` bytes asked for; the rest of `msg` is not written. -/
def rteipcMsgDrain (malloc : Nat → Bool) (buf : Evbuffer) : DrainResult × Evbuffer :=
  let len := msgLength buf
  if len = 0 then (.empty, buf)
  else if malloc len = false then (.failed, buf)
  else
    let rest := buf.drop 4
    (.message len (rest.take len), rest.drop len)

/-- Prepends the length to `buf` and moves it all to the output `bev`; the
result is the output and what is left of `buf`. -/
def rteipcEvbuffer (bev buf : Evbuffer) : Evbuffer × Evbuffer :=
  let framed := htonl buf.length ++ buf
  (bev ++ framed, [])

def rteipcBuffer (bev : Evbuffer) (data : List UInt8) : Evbuffer :=
  let buf : Evbuffer := [] ++ data
  (rteipcEvbuffer bev buf).1

/-- The receiving loop shared by the read callbacks: messages with their sizes,
in order, until `rteipc_msg_drain` returns 0 or -1. -/
def msgLoop (malloc : Nat → Bool) : Nat → Evbuffer → List (Nat × List UInt8) × Evbuffer
  | 0, buf => ([], buf)
  | fuel + 1, buf =>
      match rteipcMsgDrain malloc buf with
      | (.message size msg, rest) =>
          let (later, left) := msgLoop malloc fuel rest
          ((size, msg) :: later, left)
      | (_, rest) => ([], rest)

/-- A message takes its header off the buffer, so this much fuel is never used up. -/
def msgDrainAll (malloc : Nat → Bool) (buf : Evbuffer) : List (Nat × List UInt8) × Evbuffer :=
  msgLoop malloc (buf.length + 1) buf

/-- Chunks arriving at a receiver whose callback drains the input each time. -/
def receive (malloc : Nat → Bool) : Evbuffer → List Evbuffer → List (Nat × List UInt8) × Evbuffer
  | buf, [] => ([], buf)
  | buf, chunk :: chunks =>
      let (now, left) := msgDrainAll malloc (buf ++ chunk)
      let (later, last) := receive malloc left chunks
      (now ++ later, last)

/-! ## Headers -/

/-- The number in the header, once its four bytes are there. -/
def headerValue : Evbuffer → Option Nat
  | b₀ :: b₁ :: b₂ :: b₃ :: _ => some (ntohl b₀ b₁ b₂ b₃)
  | _ => none

@[simp] theorem htonl_length (len : Nat) : (htonl len).length = 4 := rfl

theorem ntohl_lt (b₀ b₁ b₂ b₃ : UInt8) : ntohl b₀ b₁ b₂ b₃ < 4294967296 := by
  have h₀ := UInt8.toNat_lt b₀
  have h₁ := UInt8.toNat_lt b₁
  have h₂ := UInt8.toNat_lt b₂
  have h₃ := UInt8.toNat_lt b₃
  unfold ntohl
  omega

theorem headerValue_lt {buf : Evbuffer} {len : Nat} (header : headerValue buf = some len) :
    len < 4294967296 := by
  unfold headerValue at header
  split at header
  · cases header
    exact ntohl_lt _ _ _ _
  · cases header

theorem headerValue_htonl (len : Nat) (rest : Evbuffer) :
    headerValue (htonl len ++ rest) = some (len % 4294967296) := by
  simp only [htonl, List.cons_append, List.nil_append, headerValue, ntohl, UInt8.toNat_ofNat',
    Option.some.injEq]
  omega

theorem headerValue_append {buf : Evbuffer} {len : Nat} (header : headerValue buf = some len) (rest : Evbuffer) :
    headerValue (buf ++ rest) = some len := by
  unfold headerValue at header ⊢
  split at header
  · simpa only [List.cons_append] using header
  · cases header

theorem headerValue_eq_none_iff {buf : Evbuffer} : headerValue buf = none ↔ buf.length < 4 := by
  match buf with
  | [] | [_] | [_, _] | [_, _, _] => simp [headerValue]
  | _ :: _ :: _ :: _ :: rest => simp [headerValue]

theorem msgLength_eq (buf : Evbuffer) :
    msgLength buf = match headerValue buf with
      | some len => if buf.length < (len + 4) % 4294967296 then 0 else len
      | none => 0 := by
  match buf with
  | [] | [_] | [_, _] | [_, _, _] => rfl
  | _ :: _ :: _ :: _ :: _ => rfl

theorem headerValue_some_length {buf : Evbuffer} {len : Nat} (header : headerValue buf = some len) :
    4 ≤ buf.length := by
  by_contra short
  rw [headerValue_eq_none_iff.mpr (by omega)] at header
  cases header

/-! ## One drain -/

/-- What draining promises about any buffer: a returned message is a whole
frame of the buffer, and otherwise the buffer is untouched. -/
def DrainExact (malloc : Nat → Bool) (buf : Evbuffer) : Prop :=
  match rteipcMsgDrain malloc buf with
  | (.message size msg, rest) =>
      ∃ len, headerValue buf = some len ∧ 4 + len ≤ buf.length ∧ size = len ∧
        msg = (buf.drop 4).take len ∧ msg.length = len ∧ rest = buf.drop (4 + len)
  | (_, rest) => rest = buf

theorem rteipcMsgDrain_kept {malloc : Nat → Bool} {buf rest : Evbuffer} {result : DrainResult}
    (drained : rteipcMsgDrain malloc buf = (result, rest)) (nothing : decide (result.ret = 1) = false) :
    rest = buf := by
  simp only [rteipcMsgDrain] at drained
  split at drained
  · exact (Prod.mk.inj drained).2.symm
  · split at drained
    · exact (Prod.mk.inj drained).2.symm
    · rw [← (Prod.mk.inj drained).1] at nothing
      cases nothing

/-- Draining is exact unless a header within 4 of 2^32 announces bytes that are
not there while memory for them is. -/
theorem rteipc_msg_drain_exact_iff (malloc : Nat → Bool) (buf : Evbuffer) :
    DrainExact malloc buf ↔
      ∀ len, headerValue buf = some len → malloc len = true →
        len + 4 < 4294967296 ∨ 4 + len ≤ buf.length := by
  cases header : headerValue buf with
  | none =>
      have empty : msgLength buf = 0 := by rw [msgLength_eq, header]
      simp [DrainExact, rteipcMsgDrain, empty]
  | some len =>
      have bound := headerValue_lt header
      have four := headerValue_some_length header
      have length : msgLength buf = if buf.length < (len + 4) % 4294967296 then 0 else len := by
        rw [msgLength_eq, header]
      by_cases short : buf.length < (len + 4) % 4294967296
      · rw [if_pos short] at length
        have fits : len + 4 < 4294967296 := by omega
        simp [DrainExact, rteipcMsgDrain, length, fits]
      · rw [if_neg short] at length
        by_cases zero : len = 0
        · subst zero
          simp [DrainExact, rteipcMsgDrain, length]
        · cases memory : malloc len with
          | false => simp [DrainExact, rteipcMsgDrain, length, zero, memory]
          | true =>
              simp only [DrainExact, rteipcMsgDrain, length, zero, if_false, memory,
                Bool.true_eq_false, Option.some.injEq, header]
              constructor
              · rintro ⟨_, rfl, whole, -⟩ _ rfl -
                exact .inr whole
              · intro safe
                have whole : 4 + len ≤ buf.length := by
                  rcases safe len rfl memory with fits | whole
                  · omega
                  · exact whole
                refine ⟨len, rfl, whole, rfl, rfl, ?_, ?_⟩
                · rw [List.length_take, List.length_drop]
                  omega
                · rw [List.drop_drop]

/-- Four 0xff bytes are drained as a message of 2^32-1 bytes. -/
theorem rteipc_msg_drain_wraps :
    ¬ ∀ (malloc : Nat → Bool) (buf : Evbuffer), DrainExact malloc buf := by
  intro all
  have wrapped := all (fun _ => true) [255, 255, 255, 255]
  have drained : rteipcMsgDrain (fun _ => true) [255, 255, 255, 255] =
      (.message 4294967295 [], []) := by simp [rteipcMsgDrain, msgLength, ntohl]
  simp only [DrainExact, drained] at wrapped
  obtain ⟨len, -, whole, rfl, -⟩ := wrapped
  simp at whole

end Rteipc
