import Outbox.Log
import Outbox.Session.Error
import Outbox.Trust.Certificate
import Outbox.Trust.Pem

/-! # Trust anchors

The certificates that a secure connection trusts: those of a PEM bundle, or the platform's if no
bundle is named.

* `ofBundle`: every certificate of a bundle must be usable, and there must be one.
* `ofPlatform`: unusable certificates of the platform are left out.
-/

set_option autoImplicit false

namespace Outbox

/-- The certificates that a connection trusts. -/
structure Trust where
  anchors : List Bytes
  deriving DecidableEq, Repr

namespace Trust

/-- Adds the certificates among a bundle's sections. The first fault ends it. -/
def collect (path : String) (anchors : List Bytes) :
    List (Except Pem.Fault Pem.Section) → Except CertificateFault (List Bytes)
  | [] => .ok anchors.reverse
  | .error fault :: _ => .error (.cannotRead path fault.message)
  | .ok s :: rest =>
    if s.label ≠ Utf8.encode "CERTIFICATE" then collect path anchors rest
    else if Certificate.isAnchor s.data then collect path (s.data :: anchors) rest
    else .error .notACertificate

/-- The trust in a bundle's certificates, from what reading the bundle gave. -/
def ofBundle (path : String) (content : Except SystemFault Bytes) :
    Except CertificateFault Trust :=
  match content with
  | .error .isDirectory => .error (.cannotRead path SystemFault.isDirectory.message)
  | .error fault => .error (.cannotOpen path fault)
  | .ok bytes =>
    match collect path [] (Pem.sections bytes) with
    | .error fault => .error fault
    | .ok [] => .error (.noneFound path)
    | .ok anchors => .ok ⟨anchors⟩

/-- The certificates of a bundle, each once, and the faults met. -/
def certificates (bundle : Bytes) : List Bytes × List Pem.Fault :=
  (Pem.sections bundle).foldl
    (fun (certs, faults) s => match s with
      | .error fault => (certs, faults ++ [fault])
      | .ok s =>
        if s.label = Utf8.encode "CERTIFICATE" && !certs.contains s.data then
          (certs ++ [s.data], faults)
        else (certs, faults))
    ([], [])

/-- The trust in the platform's certificates, with the events of loading them. -/
def ofPlatform (bundle : Bytes) : Except CertificateFault Trust × List Event :=
  let (certs, faults) := certificates bundle
  let anchors := certs.filter Certificate.isAnchor
  let shown := faults.map fun f =>
    "Error \x7b context: \"failed to read PEM from file\", kind: Pem(" ++ f.describe ++ ") \x7d"
  let complaints := if faults.isEmpty then [] else
    [Event.plain .warn "Some platform certificates could not be loaded"
      [("errors", .text ("[" ++ String.intercalate ", " shown ++ "]"))]]
  let loaded := Event.plain .debug "Loaded platform trust store"
    [("added", .text (toString anchors.length)),
      ("ignored", .text (toString (certs.length - anchors.length)))]
  (if anchors.isEmpty then .error .emptyPlatformStore else .ok ⟨anchors⟩, complaints ++ [loaded])

end Trust

end Outbox
