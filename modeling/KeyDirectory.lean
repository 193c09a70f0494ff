import KeyDirectory.Http.Exchange
import KeyDirectory.Serialized
import KeyDirectory.Json.Parser
import KeyDirectory.Proofs.Retrieval.Waits
import KeyDirectory.Proofs.Retrieval.Replies
import KeyDirectory.Proofs.Retrieval.History
import KeyDirectory.Proofs.Retrieval.Fallback
import KeyDirectory.Proofs.Retrieval.Bounds
import KeyDirectory.Proofs.Retrieval.Loosening
import KeyDirectory.Proofs.Policy.Reading
import KeyDirectory.Proofs.Mail.Parts
import KeyDirectory.Proofs.Mail.Rendering
import KeyDirectory.Proofs.Text.Fields
import KeyDirectory.Proofs.Unicode.Ascii
import KeyDirectory.Proofs.Url.HostName
import KeyDirectory.Proofs.Url.Path
import KeyDirectory.Proofs.Codec.ZBase32
import KeyDirectory.Proofs.Url.Reading
import KeyDirectory.Proofs.Location.References
import KeyDirectory.Proofs.Location.Candidates
import KeyDirectory.Proofs.Location.Confinement
import KeyDirectory.Proofs.Client.Lookups
import KeyDirectory.Proofs.Mail.Mailbox
import KeyDirectory.Proofs.Unicode.Casing
import KeyDirectory.Proofs.Validation.Keyring
import KeyDirectory.Proofs.Client.Spellings
import KeyDirectory.Proofs.Client.Arguments
import KeyDirectory.Proofs.Client.Contents
import KeyDirectory.Proofs.Mail.Grammar
import KeyDirectory.Proofs.Policy.Fields
import KeyDirectory.Proofs.Policy.Lines
import KeyDirectory.Proofs.Policy.Files
import KeyDirectory.Proofs.Policy.Composition
import KeyDirectory.Proofs.Text.Numeral
import KeyDirectory.Proofs.Policy.Rendering
import KeyDirectory.Proofs.Location.LocalParts
import KeyDirectory.Proofs.Codec.Polynomials
import KeyDirectory.Proofs.Codec.Armor
import KeyDirectory.Proofs.Codec.ErrorDetection
import KeyDirectory.Proofs.Validation.Assembly
import KeyDirectory.Proofs.Validation.WeakKeys
import KeyDirectory.Proofs.Codec.Canonical
import KeyDirectory.Proofs.Policy.Keywords
import KeyDirectory.Proofs.Retrieval.Logging
import KeyDirectory.Proofs.Validation.UserIds
import KeyDirectory.Proofs.Codec.Residue
import KeyDirectory.Proofs.Key.Filters
import KeyDirectory.Proofs.Client.PublishedAddress
