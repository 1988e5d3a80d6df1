import MhWallet.Effect.Within
import MhWallet.Effect.Ledger
import MhWallet.Effect.Action
import MhWallet.Bytes.BigEndian
import MhWallet.Bytes.Buffer
import MhWallet.Toolbox
import MhWallet.Core
import MhWallet.Hidapi
import MhWallet.HidppDevice
import MhWallet.FrameIo
import MhWallet.NanosWallet
import MhWallet.Framing.Wire
import MhWallet.Framing.Intake
import MhWallet.Framing.Request
import MhWallet.Framing.Exchange
import MhWallet.Framing.Response
import MhWallet.Framing.Decoding
import MhWallet.Framing.History
import MhWallet.Wallet.Exchange
import MhWallet.Wallet.Signing
import MhWallet.Wallet.Operations
import MhWallet.Wallet.Connection
import MhWallet.Locking
import MhWallet.Ownership.Transfer
import MhWallet.Wallet.Commands
import MhWallet.Wallet.Flag
import MhWallet.Ownership.Calls
import MhWallet.Wallet.Connected
import MhWallet.Ownership.Objects
import MhWallet.Framing.Receipt
import MhWallet.Wallet.Status
import MhWallet.Framing.Outgoing
import MhWallet.Wallet.AppList
import MhWallet.Wallet.AppBody
import MhWallet.Wallet.Signature
import MhWallet.Wallet.Payload
import MhWallet.Wallet.Polling
import MhWallet.Framing.Reading
import MhWallet.Framing.Ordering
import MhWallet.Framing.Declared
import MhWallet.Framing.Shortfall
import MhWallet.Framing.Contiguity
import MhWallet.Wallet.Reopening
import MhWallet.Ownership.Handles
import MhWallet.Effect.Interleaving
import MhWallet.Concurrency.Routines
import MhWallet.Concurrency.Guarding
import MhWallet.Concurrency.Interference
import MhWallet.Framing.Fifo
import MhWallet.Wallet.Matching
import MhWallet.Wallet.Siblings
import MhWallet.Framing.Counters
import MhWallet.Effect.Heap
import MhWallet.Effect.Transition
import MhWallet.Framing.Disorder
import MhWallet.Hid.Backend
import MhWallet.Hid.Descriptors
import MhWallet.ReadThread.Accounts
import MhWallet.ReadThread.Closing
import MhWallet.ReadThread.LostWakeup
import MhWallet.Windows.Overlapped
