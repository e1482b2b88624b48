import BitboxWallet.Bitbox.Session

/-! # Probing a new device (`NewDevice`)

In firmware mode `NewDevice` pings the device up to 20 times. A still-initializing error makes it
try again, any other error ends the construction with that error, and a reply ends the loop. The
device is initialized when the reply's `ping` is `"password"`. When all 20 pings report
still-initializing, the loop leaves `initialized` false and the device is built anyway.

The version checks belong to the `semver` package: `supported` stands for `version.Between` of
the mode's range, and the short sleeps are left out.
-/

namespace BitboxWallet.Bitbox

open DeviceM

/-- `Ping`: whether the device has a password set. -/
def ping : DeviceM Bool := do
  let reply ← sendPlain "ping" ""
  pure (reply.string? "ping" == some "password")

end BitboxWallet.Bitbox
