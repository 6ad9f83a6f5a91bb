import WorkflowClient.Dictionary
import WorkflowClient.Text.Blank
import WorkflowClient.Text.Utf8
import WorkflowClient.Text.Quoted
import WorkflowClient.Number.Shortest
import WorkflowClient.Number.Literal
import WorkflowClient.Json.Truth
import WorkflowClient.Json.Printer
import WorkflowClient.Json.Reader.Numeral
import WorkflowClient.Json.Reader.Quoted
import WorkflowClient.Json.Reader
import WorkflowClient.Envelope
import WorkflowClient.Config
import WorkflowClient.LineReader
import WorkflowClient.Conversation
import WorkflowClient.Network.Calls
import WorkflowClient.Extension
import WorkflowClient.CommandLine.Arguments
import WorkflowClient.CommandLine.Program
import WorkflowClient.Main
import WorkflowClient.Proofs.CompleteLines
import WorkflowClient.Proofs.Receipts
import WorkflowClient.Proofs.RepeatedReads
import WorkflowClient.Proofs.ChunkedArrival
import WorkflowClient.Proofs.EncodedText
import WorkflowClient.Proofs.ValueStructure
import WorkflowClient.Proofs.PrintedText
import WorkflowClient.Proofs.TokensReadBack
import WorkflowClient.Proofs.FramedLines
import WorkflowClient.Proofs.CallEffects
import WorkflowClient.Proofs.ConnectionOutcome
import WorkflowClient.Proofs.PeerStream
import WorkflowClient.Proofs.ReplyPairing
import WorkflowClient.Proofs.CallConditions
import WorkflowClient.Proofs.WireLanguage
import WorkflowClient.Proofs.Reconnecting
import WorkflowClient.Proofs.AnsweredFrames
import WorkflowClient.Proofs.RemoteCommands
import WorkflowClient.Proofs.ExitCodes
import WorkflowClient.Proofs.ByteAccount
import WorkflowClient.Proofs.IdleCalls
import WorkflowClient.Proofs.Interruptions
import WorkflowClient.Proofs.QueryPaths
import WorkflowClient.Proofs.ParsedValues
import WorkflowClient.Proofs.ResolvedSettings
import WorkflowClient.Proofs.ErrorReports
import WorkflowClient.Proofs.ExtensionHistory
import WorkflowClient.Proofs.QueryFields
import WorkflowClient.Proofs.JudgedLines
import WorkflowClient.Proofs.SpacedForms
import WorkflowClient.Proofs.TypedReadings
import WorkflowClient.Proofs.SentCredentials
import WorkflowClient.Proofs.UnbrokenLines
import WorkflowClient.Proofs.LocalReadings
import WorkflowClient.Proofs.LocalTokens
import WorkflowClient.Proofs.LocalValues
import WorkflowClient.Proofs.TrimmedReplies
import WorkflowClient.Proofs.ParsedNumbers
import WorkflowClient.Proofs.NormalisedFrames
import WorkflowClient.Proofs.LeastReceives
import WorkflowClient.Proofs.RoundedTimeouts
import WorkflowClient.Proofs.DialledAddresses
import WorkflowClient.Proofs.WrittenPorts
