import Mathlib.Data.List.Basic

/-!
UDP on the connector route (`connector/src/device_tunnel.rs`, `relay_udp`), while nothing fails.

The device's stream is taken byte by byte, which is every way to cut it into chunks. A datagram of
the resource is taken only in the `select!`, and drops the `read_exact` of the length with what it
has read; elsewhere it waits in the socket.
-/

namespace Zecurity.UdpRelay

open List

abbrev Datagram := List UInt8

def toBeBytes (n : ℕ) : List UInt8 :=
  [.ofNat (n / 16777216), .ofNat (n / 65536), .ofNat (n / 256), .ofNat n]

def fromBeBytes (bytes : List UInt8) : ℕ := bytes.foldl (fun n b => 256 * n + b.toNat) 0

/-- How the device, and the connector, frame a datagram. -/
def frame (datagram : Datagram) : List UInt8 := toBeBytes datagram.length ++ datagram

inductive Phase
  /-- in the `select!`, with what is read of the length -/
  | length (read : List UInt8)
  | payload (len : ℕ) (read : List UInt8)
  | ended

/-- The reading half, with what it has sent to the resource. -/
structure Reader where
  phase : Phase := .length []
  sent : List Datagram := []

structure State where
  reader : Reader := {}
  written : List UInt8 := []

inductive Event
  | byte (b : UInt8)
  | recv (datagram : Datagram)

/-- The length is known. -/
def Reader.payload (r : Reader) (len : ℕ) (read : List UInt8) : Reader :=
  if 65535 < len then { r with phase := .ended }
  else if read.length < len then { r with phase := .payload len read }
  else ⟨.length [], r.sent ++ [read]⟩

def Reader.byte (r : Reader) (b : UInt8) : Reader :=
  match r.phase with
  | .length read =>
    if read.length < 3 then { r with phase := .length (read ++ [b]) }
    else r.payload (fromBeBytes (read ++ [b])) []
  | .payload len read => r.payload len (read ++ [b])
  | .ended => r

def State.next (s : State) : Event → State
  | .byte b => { s with reader := s.reader.byte b }
  | .recv datagram =>
    match s.reader.phase with
    | .length _ => ⟨{ s.reader with phase := .length [] }, s.written ++ frame datagram⟩
    | _ => s

def relayUdp (events : List Event) : State := events.foldl State.next {}

def bytes (events : List Event) : List UInt8 :=
  events.filterMap fun
    | .byte b => some b
    | .recv _ => none

lemma foldl_toBeBytes {r n} (hr : r.phase = .length []) (h : n ≤ 65535) :
    (toBeBytes n).foldl Reader.byte r = r.payload n [] := by
  have hl : fromBeBytes (toBeBytes n) = n := by
    simp only [fromBeBytes, toBeBytes, foldl_cons, foldl_nil, UInt8.toNat_ofNat']
    omega
  simp only [toBeBytes] at hl ⊢
  simp [Reader.byte, hr, hl, Reader.payload]

lemma foldl_payload {rest} : ∀ {r : Reader} {l : List UInt8},
    (l ++ rest).length ≤ 65535 → rest.foldl Reader.byte (r.payload (l ++ rest).length l) =
      ⟨.length [], r.sent ++ [l ++ rest]⟩ := by
  induction rest with
  | nil =>
    intro r l hle
    rw [append_nil] at hle ⊢
    simp [Reader.payload, hle]
  | cons b rest ih =>
    intro r l hle
    have hm : r.payload (l ++ b :: rest).length l =
        { r with phase := .payload (l ++ b :: rest).length l } := by
      rw [Reader.payload, if_neg (Nat.not_lt.2 hle), if_pos (by simp)]
    rw [hm, foldl_cons]
    rw [append_cons] at hle ⊢
    exact ih hle

lemma foldl_frames {dgs : List Datagram} (h : ∀ d ∈ dgs, d.length ≤ 65535) :
    ∀ {r : Reader}, r.phase = .length [] → (dgs.flatMap frame).foldl Reader.byte r =
      ⟨.length [], r.sent ++ dgs⟩ := by
  induction dgs with
  | nil =>
    intro r hr
    simp [← hr]
  | cons d dgs ih =>
    intro r hr
    rw [forall_mem_cons] at h
    rw [flatMap_cons, foldl_append, frame, foldl_append, foldl_toBeBytes hr h.1]
    have ho := foldl_payload (r := r) (l := []) h.1
    rw [nil_append] at ho
    rw [ho, ih h.2 rfl, append_assoc]
    rfl

/-- The device sends one datagram, and the resource one, inside of the length or after the frame. -/
def answered (inside : Bool) : List Event :=
  [.byte 0, .byte 0] ++ (if inside then [.recv [7]] else []) ++ [.byte 0, .byte 1, .byte 5] ++
    if inside then [] else [.recv [7]]

/-- The datagrams of the resource that the `select!` takes. -/
def taken (s : State) : List Event → List Datagram
  | [] => []
  | e :: events =>
    (match e, s.reader.phase with
      | .recv datagram, .length _ => [datagram]
      | _, _ => []) ++ taken (s.next e) events

lemma written_foldl {evs : List Event} : ∀ {s : State},
    (evs.foldl State.next s).written = s.written ++ (taken s evs).flatMap frame := by
  induction evs with
  | nil => simp [taken]
  | cons e evs ih =>
    intro s
    rw [foldl_cons, ih]
    rcases e with b | dg
    · rfl
    · rcases hp : s.reader.phase with _ | _ | _ <;> simp [taken, State.next, hp]

/-- **The device gets the datagrams that are taken**, whole and in their order, whatever it sends
meanwhile. -/
theorem written_read (events : List Event) (h : ∀ d ∈ taken {} events, d.length ≤ 65535) :
    (relayUdp events).written.foldl Reader.byte {} = ⟨.length [], taken {} events⟩ := by
  rw [relayUdp, written_foldl]
  exact foldl_frames h rfl

theorem written_read_answered :
    (relayUdp (answered true)).written.foldl Reader.byte {} = ⟨.length [], [[7]]⟩ :=
  written_read (answered true) (by decide)

end Zecurity.UdpRelay
