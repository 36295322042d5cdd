import Outbox.ServerName
import Outbox.Trust

/-! # The network

What a connection can meet, as far as a client can tell: whether it is made at all, whom the peer
proves to be, what it sends and how its side ends, and how long it takes what is written to it.

* `Inflow`: the octets a peer sends, cut into the pieces that single reads deliver.
* `Blockage`: the point at which a peer takes no more of what is written.
* `Network`: what is reachable, and the files that hold trust anchors.
* `Environment`: a network, with the certificates and the blockages that a connection finds there.
  Of itself a network stands for one whose certificates are those of `Trust` and whose peers take
  everything.
* `Network.connect`, `Environment.connectSecure`: opening a connection.
-/

set_option autoImplicit false

namespace Outbox

/-- How a peer's side ends once it has sent everything. -/
inductive Ending where
  | closed
  | silent
  | broken (fault : SystemFault)
  deriving DecidableEq, Repr

/-- What a peer sends. -/
structure Inflow where
  pieces : List Bytes
  ending : Ending
  deriving DecidableEq, Repr

namespace Inflow

/-- All octets still to come. -/
def octets (f : Inflow) : Bytes := f.pieces.flatten

/-- What reading can still consume of some pieces: every octet and every piece. -/
def unread : List Bytes → Nat
  | [] => 0
  | p :: ps => p.length + 1 + unread ps

/-- One read of at most `room` octets: what it delivers, if anything is left. -/
def read (room : Nat) : List Bytes → Option (Bytes × List Bytes)
  | [] => none
  | [] :: rest => read room rest
  | (b :: piece) :: rest =>
    if piece.length + 1 ≤ room then some (b :: piece, rest)
    else some ((b :: piece).take room, (b :: piece).drop room :: rest)

theorem unread_read {room : Nat} (hr : 0 < room) {ps : List Bytes} {data : Bytes}
    {left : List Bytes} (h : read room ps = some (data, left)) : unread left < unread ps := by
  induction ps with
  | nil => simp [read] at h
  | cons p ps ih =>
    cases p with
    | nil =>
      have := ih (by simpa [read] using h)
      simp only [unread]
      omega
    | cons b piece =>
      simp only [read] at h
      split at h <;> simp only [Option.some.injEq, Prod.mk.injEq] at h <;> obtain ⟨_, rfl⟩ := h <;>
        simp only [unread, List.length_cons, List.length_drop] <;> omega

end Inflow

/-- The names a peer is known by and the authority that vouches for them. -/
structure Identity where
  names : List String
  authority : Bytes
  deriving DecidableEq, Repr

/-- Whether an identity is one of a server of that name, by an authority that is trusted. -/
def Trust.proves (t : Trust) (i : Identity) (domain : String) : Bool :=
  t.anchors.contains i.authority && i.names.contains domain

/-- A peer that accepts connections, in the clear or behind its identity. -/
structure Peer where
  inflow : Inflow
  identity : Option Identity
  deriving DecidableEq, Repr

/-- What is reachable under which address, and what reading a file gives. -/
structure Network where
  peer : String → Except SystemFault Peer
  file : String → Except SystemFault Bytes
  platform : Bytes

/-- Where a connection stops to take what is written: the writes that still succeed, how much of the
next one gets through, and the fault that it fails with, if it does not wait forever. -/
structure Blockage where
  writes : Nat
  through : Nat
  fault : Option SystemFault
  deriving DecidableEq, Repr

/-- Why an exchange does not go on: it failed, or the peer keeps silent. -/
inductive Stop where
  | failed (e : SessionError)
  | stalled
  deriving DecidableEq, Repr

/-- How a write ends that a blockage stops. -/
def Blockage.stop (b : Blockage) : Stop :=
  match b.fault with
  | some fault => .failed (.io fault)
  | none => .stalled

/-- The trust anchors that settings name in a network: a bundle's, or the platform's for an empty
path. -/
def Network.anchors (n : Network) (caStore : String) :
    Except CertificateFault Trust × List Event :=
  if caStore.isEmpty then Trust.ofPlatform n.platform
  else (Trust.ofBundle caStore (n.file caStore), [])

/-- A network as connections find it: what comes of loading trust anchors, which texts name a
server, whom a peer proves to be, and where a peer's address stops to take what is written. -/
structure Environment extends Network where
  anchors : String → Except CertificateFault Trust × List Event := toNetwork.anchors
  isServerName : String → Bool := ServerName.isServerName
  proves : Trust → Identity → String → Bool := Trust.proves
  blockage : String → Option Blockage := fun _ => none

instance : Coe Network Environment := ⟨fun n => { toNetwork := n }⟩

/-- Opens a connection in the clear. A peer that expects a handshake first never speaks. -/
def Network.connect (n : Network) (address : String) : Except Stop Inflow :=
  match n.peer address with
  | .error fault => .error (.failed (.io fault))
  | .ok p => .ok (if p.identity.isSome then ⟨[], .silent⟩ else p.inflow)

namespace Environment

/-- The trust that settings name. -/
def trust (n : Environment) (caStore : String) : Except SessionError Trust × List Event :=
  let (trust, events) := n.anchors caStore
  (trust.mapError .certificate, events)

/-- Opens a connection to a peer that proves to be `domain`. The name is checked before anything
is sent. -/
def connectSecure (n : Environment) (address domain : String) (trust : Trust) :
    Except Stop Inflow :=
  if !n.isServerName domain then .error (.failed (.tls .invalidDomain))
  else match n.peer address with
    | .error fault => .error (.failed (.io fault))
    | .ok p =>
      match p.identity with
      | some i =>
        if n.proves trust i domain then .ok p.inflow else .error (.failed (.tls .handshake))
      | none =>
        if p.inflow.octets.isEmpty && p.inflow.ending = .silent then .error .stalled
        else .error (.failed (.tls .handshake))

end Environment

/-- The trust that settings name in a network. -/
def Network.trust (n : Network) : String → Except SessionError Trust × List Event :=
  Environment.trust n

/-- Opens a connection to a peer of a network that proves to be `domain`. -/
def Network.connectSecure (n : Network) : String → String → Trust → Except Stop Inflow :=
  Environment.connectSecure n

end Outbox
