import Outbox.Duration

/-! # Time limits of a transfer

One limit for each phase of a transfer, in whole seconds, and their sum.

* `Timeouts.Default`: what each limit is where none is named. `Timeouts.standard` has them all.
-/

set_option autoImplicit false

namespace Outbox

/-- The limits of the phases of a transfer, in seconds. -/
structure Timeouts where
  connectSecs : UInt64
  ehloSecs : UInt64
  authSecs : UInt64
  mailFromSecs : UInt64
  rcptToSecs : UInt64
  dataSecs : UInt64
  quitSecs : UInt64
  deriving DecidableEq, Repr

namespace Timeouts

namespace Default

def connectSecs : UInt64 := 30

def ehloSecs : UInt64 := 30

def authSecs : UInt64 := 30

def mailFromSecs : UInt64 := 30

def rcptToSecs : UInt64 := 30

def dataSecs : UInt64 := 120

def quitSecs : UInt64 := 10

end Default

/-- The limits of settings that name none. -/
def standard : Timeouts where
  connectSecs := Default.connectSecs
  ehloSecs := Default.ehloSecs
  authSecs := Default.authSecs
  mailFromSecs := Default.mailFromSecs
  rcptToSecs := Default.rcptToSecs
  dataSecs := Default.dataSecs
  quitSecs := Default.quitSecs

def seconds (n : UInt64) : Duration := Duration.ofSecs n.toNat

def connect (t : Timeouts) : Duration := seconds t.connectSecs

def ehlo (t : Timeouts) : Duration := seconds t.ehloSecs

def auth (t : Timeouts) : Duration := seconds t.authSecs

def mailFrom (t : Timeouts) : Duration := seconds t.mailFromSecs

def rcptTo (t : Timeouts) : Duration := seconds t.rcptToSecs

def data (t : Timeouts) : Duration := seconds t.dataSecs

def quit (t : Timeouts) : Duration := seconds t.quitSecs

/-- The sum of all limits. -/
def total (t : Timeouts) : Duration :=
  Duration.ofSecs (t.connectSecs.toNat + t.ehloSecs.toNat + t.authSecs.toNat +
    t.mailFromSecs.toNat + t.rcptToSecs.toNat + t.dataSecs.toNat + t.quitSecs.toNat)

end Timeouts

end Outbox
