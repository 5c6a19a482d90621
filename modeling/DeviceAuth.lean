import DeviceAuth.Authority
import DeviceAuth.Command.Arguments
import DeviceAuth.Command.Devices
import DeviceAuth.Command.Failure
import DeviceAuth.Command.Run
import DeviceAuth.Command.Settings
import DeviceAuth.Command.Tokens
import DeviceAuth.Config.Error
import DeviceAuth.Config.File
import DeviceAuth.Config.Invitation
import DeviceAuth.Config.Settings
import DeviceAuth.Credential
import DeviceAuth.Crypto.Aes256
import DeviceAuth.Crypto.Blake2b
import DeviceAuth.Crypto.Gcm
import DeviceAuth.Crypto.Hkdf
import DeviceAuth.Crypto.Quad
import DeviceAuth.Crypto.Sha256
import DeviceAuth.Crypto.Words
import DeviceAuth.Crypto.XChaCha20
import DeviceAuth.Identity
import DeviceAuth.Json.Record
import DeviceAuth.Json.Text
import DeviceAuth.Json.Token
import DeviceAuth.Key
import DeviceAuth.Main
import DeviceAuth.Octets
import DeviceAuth.Proofs.AddressParts
import DeviceAuth.Proofs.Aes256
import DeviceAuth.Proofs.Base64
import DeviceAuth.Proofs.Calendar
import DeviceAuth.Proofs.Claims
import DeviceAuth.Proofs.DeviceBinding
import DeviceAuth.Proofs.Envelope
import DeviceAuth.Proofs.Exchange
import DeviceAuth.Proofs.Framing
import DeviceAuth.Proofs.Freshness
import DeviceAuth.Proofs.Gate
import DeviceAuth.Proofs.GcmElement
import DeviceAuth.Proofs.GcmTag
import DeviceAuth.Proofs.Headers
import DeviceAuth.Proofs.Identity
import DeviceAuth.Proofs.ImportedSession
import DeviceAuth.Proofs.Instant
import DeviceAuth.Proofs.JsonRecord
import DeviceAuth.Proofs.JsonText
import DeviceAuth.Proofs.KeychainRefinement
import DeviceAuth.Proofs.Lifetime
import DeviceAuth.Proofs.Provisioning
import DeviceAuth.Proofs.ReadBack
import DeviceAuth.Proofs.RegistryAccess
import DeviceAuth.Proofs.Result
import DeviceAuth.Proofs.SealedKey
import DeviceAuth.Proofs.SecretIndependence
import DeviceAuth.Proofs.Secrets
import DeviceAuth.Proofs.SessionRuns
import DeviceAuth.Proofs.SessionSave
import DeviceAuth.Proofs.Signing
import DeviceAuth.Proofs.StoreLaws
import DeviceAuth.Proofs.Tampering
import DeviceAuth.Proofs.Timestamp
import DeviceAuth.Proofs.Utf8
import DeviceAuth.Proofs.Uuid
import DeviceAuth.Proofs.Verification
import DeviceAuth.Random
import DeviceAuth.Request.Basic
import DeviceAuth.Request.Channel
import DeviceAuth.Request.Checked
import DeviceAuth.Request.Headers
import DeviceAuth.Request.Signing
import DeviceAuth.Request.Verification
import DeviceAuth.SealedKey
import DeviceAuth.Session
import DeviceAuth.Store.Basic
import DeviceAuth.Store.Faults
import DeviceAuth.Store.Keychain
import DeviceAuth.Store.Memory
import DeviceAuth.Table
import DeviceAuth.Text.Affix
import DeviceAuth.Text.Base64
import DeviceAuth.Text.Hex
import DeviceAuth.Text.Quoted
import DeviceAuth.Text.Unprintable
import DeviceAuth.Text.Url
import DeviceAuth.Time.Calendar
import DeviceAuth.Time.Instant
import DeviceAuth.Time.Timestamp
import DeviceAuth.Token.Claims
import DeviceAuth.Token.Envelope
import DeviceAuth.Token.Error
import DeviceAuth.Token.Framing
import DeviceAuth.Toml.Document
import DeviceAuth.Toml.Scalar
import DeviceAuth.Toml.Table
import DeviceAuth.Toml.Text
import DeviceAuth.Uuid
