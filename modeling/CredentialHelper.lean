import CredentialHelper.CommandLine.Arguments
import CredentialHelper.CommandLine.Form
import CredentialHelper.CommandLine.Request
import CredentialHelper.CommandLine.Run
import CredentialHelper.Credential.Refresh
import CredentialHelper.Credential.Refusal
import CredentialHelper.Credential.Stored
import CredentialHelper.Credential.Token
import CredentialHelper.Failure.Cause
import CredentialHelper.Failure.Collaborator
import CredentialHelper.Failure.Error
import CredentialHelper.Failure.Kind
import CredentialHelper.Failure.System
import CredentialHelper.Helper
import CredentialHelper.Host.Action
import CredentialHelper.Host.FileName
import CredentialHelper.Host.FileTree
import CredentialHelper.Host.Journal
import CredentialHelper.Host.Path
import CredentialHelper.Host.World
import CredentialHelper.Http.Address
import CredentialHelper.Http.Checksum
import CredentialHelper.Http.ContentCoding
import CredentialHelper.Http.Deflate
import CredentialHelper.Http.Form
import CredentialHelper.Http.HostName
import CredentialHelper.Http.Label
import CredentialHelper.Http.Label.Composition
import CredentialHelper.Http.Label.Context
import CredentialHelper.Http.Label.Direction
import CredentialHelper.Http.Label.Mark
import CredentialHelper.Http.Label.Permitted
import CredentialHelper.Http.Percent
import CredentialHelper.Http.Punycode
import CredentialHelper.Http.Url
import CredentialHelper.Identity
import CredentialHelper.Json.Literal
import CredentialHelper.Json.Reader
import CredentialHelper.Json.Value
import CredentialHelper.Json.Writer
import CredentialHelper.Login
import CredentialHelper.Main
import CredentialHelper.Number.Binary64
import CredentialHelper.Number.Numeral
import CredentialHelper.Number.Quantity
import CredentialHelper.Number.Shortest
import CredentialHelper.Proofs.AlikeCredentials
import CredentialHelper.Proofs.AlikeFiles
import CredentialHelper.Proofs.Calendar
import CredentialHelper.Proofs.CommandFiles
import CredentialHelper.Proofs.ConcurrentSaves
import CredentialHelper.Proofs.DamagedFile
import CredentialHelper.Proofs.Effects
import CredentialHelper.Proofs.EncodedText
import CredentialHelper.Proofs.ErrorText
import CredentialHelper.Proofs.ExpandedPath
import CredentialHelper.Proofs.FailedWrite
import CredentialHelper.Proofs.FileChanges
import CredentialHelper.Proofs.FileName
import CredentialHelper.Proofs.FileTree
import CredentialHelper.Proofs.ForgottenSettings
import CredentialHelper.Proofs.FormText
import CredentialHelper.Proofs.GetReply
import CredentialHelper.Proofs.GrantedLifetime
import CredentialHelper.Proofs.JoinedText
import CredentialHelper.Proofs.JsonDocument
import CredentialHelper.Proofs.JsonFile
import CredentialHelper.Proofs.JsonNumber
import CredentialHelper.Proofs.JsonReadable
import CredentialHelper.Proofs.JsonSpelling
import CredentialHelper.Proofs.JsonString
import CredentialHelper.Proofs.KnownSources
import CredentialHelper.Proofs.LibraryFailure
import CredentialHelper.Proofs.LoginToken
import CredentialHelper.Proofs.Logout
import CredentialHelper.Proofs.MadeDirectories
import CredentialHelper.Proofs.Members
import CredentialHelper.Proofs.MomentText
import CredentialHelper.Proofs.NormalPath
import CredentialHelper.Proofs.OpaqueTokens
import CredentialHelper.Proofs.OwnerOnly
import CredentialHelper.Proofs.Path
import CredentialHelper.Proofs.Reauthentication
import CredentialHelper.Proofs.RefreshCalls
import CredentialHelper.Proofs.RefreshFailure
import CredentialHelper.Proofs.RefusalBodies
import CredentialHelper.Proofs.RequestFailures
import CredentialHelper.Proofs.Resolution
import CredentialHelper.Proofs.ResolutionCalls
import CredentialHelper.Proofs.RevokedGrant
import CredentialHelper.Proofs.SettingsFailure
import CredentialHelper.Proofs.SettingsFile
import CredentialHelper.Proofs.SharedFile
import CredentialHelper.Proofs.ShownHints
import CredentialHelper.Proofs.Sources
import CredentialHelper.Proofs.SourcesCommand
import CredentialHelper.Proofs.StoreCell
import CredentialHelper.Proofs.StoreFile
import CredentialHelper.Proofs.StoredForm
import CredentialHelper.Proofs.SuggestedSources
import CredentialHelper.Proofs.TokenInstants
import CredentialHelper.Proofs.TwoRuns
import CredentialHelper.Proofs.UnsupportedCommands
import CredentialHelper.Proofs.UsableSecret
import CredentialHelper.Proofs.Utf8
import CredentialHelper.Settings.Basic
import CredentialHelper.Settings.Layer
import CredentialHelper.Settings.UserFile
import CredentialHelper.Settings.Verbosity
import CredentialHelper.Similarity
import CredentialHelper.Source.Ambient
import CredentialHelper.Source.Command
import CredentialHelper.Source.Gcloud
import CredentialHelper.Source.Kind
import CredentialHelper.Source.Reauthentication
import CredentialHelper.Source.Resolver
import CredentialHelper.Source.Stored
import CredentialHelper.Store.Access
import CredentialHelper.Store.Contents
import CredentialHelper.Store.File
import CredentialHelper.Text.Blank
import CredentialHelper.Text.Case
import CredentialHelper.Text.CharRange
import CredentialHelper.Text.DecimalDigit
import CredentialHelper.Text.Decoding
import CredentialHelper.Text.Detection
import CredentialHelper.Text.Encoding
import CredentialHelper.Text.Hexadecimal
import CredentialHelper.Text.Placement
import CredentialHelper.Text.Printable
import CredentialHelper.Text.Quoted
import CredentialHelper.Text.Split
import CredentialHelper.Text.Symbol
import CredentialHelper.Text.Utf8
import CredentialHelper.Time.Calendar
import CredentialHelper.Time.Moment
import CredentialHelper.Time.Reader
import CredentialHelper.Validation.Field
import CredentialHelper.Validation.Report
