import BrokerGuard.Chat.Server
import BrokerGuard.Csrf.Filter
import BrokerGuard.Http.SessionLayer
import BrokerGuard.Http.Transcript
import BrokerGuard.Channel.Recorder
import BrokerGuard.Handshake.Recorder
import BrokerGuard.Expression.Outline
import BrokerGuard.Json.Access
import BrokerGuard.Problem
import BrokerGuard.Inspection
import BrokerGuard.Text.CharSet
import BrokerGuard.Text.CharSet.Case
import BrokerGuard.Text.CharSet.Category
import BrokerGuard.Text.Property.Age
import BrokerGuard.Text.Property.Contributed
import BrokerGuard.Proofs.Expression.Grammar
import BrokerGuard.Proofs.Message.Rules
import BrokerGuard.Proofs.Broker.Mediation
import BrokerGuard.Proofs.Handshake.Chain
import BrokerGuard.Proofs.Broker.TokenTransfer
import BrokerGuard.Proofs.Message.RoleRules
import BrokerGuard.Proofs.Pattern.Star
import BrokerGuard.Proofs.Pattern.Ant
import BrokerGuard.Proofs.Broker.Patching
import BrokerGuard.Proofs.Channel.Callbacks
import BrokerGuard.Proofs.Chat.Policy
import BrokerGuard.Proofs.Message.Registrations
import BrokerGuard.Proofs.Broker.Configuration
import BrokerGuard.Proofs.Handshake.Origin
import BrokerGuard.Proofs.Endpoint.Admission
import BrokerGuard.Proofs.Broker.Abstention
import BrokerGuard.Proofs.Channel.Nesting
import BrokerGuard.Proofs.Access.UrlRules
import BrokerGuard.Proofs.Http.Arrivals
import BrokerGuard.Proofs.Csrf.Session
import BrokerGuard.Proofs.Http.UrlSecurity
import BrokerGuard.Proofs.Access.Conversion
import BrokerGuard.Proofs.Access.Voting
import BrokerGuard.Proofs.Chat.Endpoints
import BrokerGuard.Proofs.Expression.Misreading
import BrokerGuard.Proofs.Expression.Truth
import BrokerGuard.Proofs.Expression.PatternCache
import BrokerGuard.Proofs.Expression.Canonical
import BrokerGuard.Proofs.Handshake.AllowedOrigins
import BrokerGuard.Proofs.User.RoleNames
import BrokerGuard.Proofs.Pattern.LetterCase
import BrokerGuard.Proofs.Access.Monotone
import BrokerGuard.Proofs.Pattern.AsciiCase
import BrokerGuard.Proofs.Access.RegexKey
import BrokerGuard.Proofs.Handshake.Protocol
import BrokerGuard.Proofs.Endpoint.Reachable
import BrokerGuard.Proofs.Pattern.Positions
import BrokerGuard.Proofs.Expression.Calls
import BrokerGuard.Proofs.Handshake.Transparency
import BrokerGuard.Proofs.Components.History
