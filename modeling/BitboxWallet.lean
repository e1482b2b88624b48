import BitboxWallet.Usb.Frame
import BitboxWallet.Usb.RoundTrip
import BitboxWallet.Usb.Reports
import BitboxWallet.Usb.Reads
import BitboxWallet.Usb.LongMessages
import BitboxWallet.Usb.Communication
import BitboxWallet.Addresses.Chain
import BitboxWallet.Addresses.Reachable
import BitboxWallet.Bitbox.Basic
import BitboxWallet.Usb.Censor
import BitboxWallet.Usb.Bootloader
import BitboxWallet.Bitbox.Session
import BitboxWallet.Bitbox.Probe
import BitboxWallet.Bitbox.Atomicity
import BitboxWallet.Bitbox.Calls
import BitboxWallet.Bitbox.Sign
import BitboxWallet.Bitbox.Signatures
import BitboxWallet.Bitbox.Batches
import BitboxWallet.Bitbox.Replies
import BitboxWallet.Bitbox.Api
import BitboxWallet.Btc.SignTransaction
import BitboxWallet.Config
import BitboxWallet.Frontend.Receive
