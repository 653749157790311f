import Switchboard.Alias.Definition
import Switchboard.Alias.DispatchId
import Switchboard.Chat.Mention
import Switchboard.Chat.Stream
import Switchboard.Chat.Wire
import Switchboard.Json.Record
import Switchboard.Unicode.Lookup
import Switchboard.Notification.Webhook
import Switchboard.Alias.Dispatch
import Switchboard.Relay
import Switchboard.Pattern.Parse
import Switchboard.Pattern.Meaning
import Switchboard.Pattern.Compiled
import Switchboard.Main
import Switchboard.Proofs.Pattern.Positions
import Switchboard.Proofs.Pattern.Reach
import Switchboard.Proofs.Pattern.Language
import Switchboard.Proofs.Alias.PlainFormat
import Switchboard.Proofs.Unicode.Folding
import Switchboard.Proofs.Alias.Recognition
import Switchboard.Proofs.Alias.Trailer
import Switchboard.Proofs.Pattern.Picking
import Switchboard.Proofs.Alias.Extraction
import Switchboard.Proofs.Alias.RefreshRuns
import Switchboard.Proofs.Alias.RefreshTimes
import Switchboard.Proofs.Chat.Conversation
import Switchboard.Proofs.Chat.Replies
import Switchboard.Proofs.Alias.Registration
import Switchboard.Proofs.Results
import Switchboard.Proofs.Text.Ascii
import Switchboard.Proofs.Text.Utf8
import Switchboard.Proofs.Json.Strings
import Switchboard.Proofs.Json.Numbers
import Switchboard.Proofs.Json.Texts
import Switchboard.Proofs.Json.Acceptance
import Switchboard.Proofs.Json.Members
import Switchboard.Proofs.Json.StrictTexts
import Switchboard.Proofs.Json.Writing
import Switchboard.Proofs.Json.Integers
import Switchboard.Proofs.Json.Codecs
import Switchboard.Proofs.Json.Skipping
import Switchboard.Proofs.Json.Records
import Switchboard.Proofs.Alias.Listings
import Switchboard.Proofs.Alias.Identifiers
import Switchboard.Proofs.Notification.Forms
import Switchboard.Proofs.Notification.Envelopes
import Switchboard.Proofs.Alias.Isolation
import Switchboard.Proofs.Unicode.Lowering
import Switchboard.Proofs.Alias.LetterCase
import Switchboard.Proofs.Alias.Snapshots
import Switchboard.Proofs.Chat.Lines
import Switchboard.Proofs.Chat.Turns
import Switchboard.Proofs.Notification.Delivery
import Switchboard.Proofs.Text.Digits
import Switchboard.Proofs.Net.Percent
import Switchboard.Proofs.Text.Base64
import Switchboard.Proofs.Unicode.Plain
import Switchboard.Proofs.Net.Punycode
import Switchboard.Proofs.Net.Idna
import Switchboard.Proofs.Net.Hosts
import Switchboard.Proofs.Net.Addresses
import Switchboard.Proofs.Net.Endpoints
import Switchboard.Proofs.Net.NormalUrls
import Switchboard.Proofs.Net.Joins
import Switchboard.Proofs.Config.Variables
import Switchboard.Proofs.Config.Endpoints
import Switchboard.Proofs.Config.Faults
import Switchboard.Proofs.Config.TokenEndpoints
import Switchboard.Proofs.Service.Tokens
import Switchboard.Proofs.Service.Requests
import Switchboard.Proofs.Service.Secrets
import Switchboard.Proofs.Relay.Messages
import Switchboard.Proofs.Relay.Effects
import Switchboard.Proofs.Relay.Operation
import Switchboard.Proofs.Chat.Calls
import Switchboard.Proofs.Relay.Frames
import Switchboard.Proofs.Alias.Captures
import Switchboard.Proofs.Alias.CapturingGroups
import Switchboard.Proofs.Alias.TrailerWords
import Switchboard.Proofs.Alias.WordBoundaries
import Switchboard.Proofs.Notification.Blocks
import Switchboard.Proofs.Alias.HelpLines
import Switchboard.Proofs.Alias.ExecutionIds
import Switchboard.Proofs.Chat.Mentions
import Switchboard.Proofs.Notification.Nesting
import Switchboard.Proofs.Notification.Decoding
import Switchboard.Proofs.Notification.PlainFields
import Switchboard.Proofs.Chat.Streams
import Switchboard.Proofs.Chat.MentionForm
import Switchboard.Proofs.Alias.Acknowledgements
import Switchboard.Proofs.Decimal.Binary
import Switchboard.Proofs.Decimal.Shortest
import Switchboard.Proofs.Json.Scaling
import Switchboard.Proofs.Json.Doubles
import Switchboard.Proofs.Json.Outcomes
import Switchboard.Proofs.Json.Rereading
import Switchboard.Proofs.Alias.Decoders
import Switchboard.Proofs.Alias.Segmentation
