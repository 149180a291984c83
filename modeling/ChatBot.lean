import ChatBot.Argument.Bindings
import ChatBot.Argument.Duration
import ChatBot.Argument.Kind
import ChatBot.Argument.Mention
import ChatBot.Argument.Parameter
import ChatBot.Argument.Read
import ChatBot.Argument.Signature
import ChatBot.Argument.Stored
import ChatBot.Argument.Value
import ChatBot.Command.Basic
import ChatBot.Command.Descent
import ChatBot.Config.Basic
import ChatBot.Config.Loader
import ChatBot.Console.Help
import ChatBot.Console.Options
import ChatBot.Console.Session
import ChatBot.Demo
import ChatBot.Dispatch.Dispatcher
import ChatBot.Dispatch.Event
import ChatBot.Dispatch.Settings
import ChatBot.Fault
import ChatBot.Format.Binary64
import ChatBot.Format.Json
import ChatBot.Format.Shape
import ChatBot.Format.Toml
import ChatBot.Format.TomlDocument
import ChatBot.Format.TomlSyntax
import ChatBot.Format.Yaml
import ChatBot.Format.YamlParser
import ChatBot.Format.YamlScanner
import ChatBot.Main
import ChatBot.Proofs.ArgumentsOnce
import ChatBot.Proofs.BlankRuns
import ChatBot.Proofs.Building
import ChatBot.Proofs.ConfigLoading
import ChatBot.Proofs.Descent
import ChatBot.Proofs.Dispatch
import ChatBot.Proofs.DurationFolding
import ChatBot.Proofs.DurationGrammar
import ChatBot.Proofs.DurationRendering
import ChatBot.Proofs.Extension
import ChatBot.Proofs.FirstWord
import ChatBot.Proofs.Flags
import ChatBot.Proofs.GuildSettings
import ChatBot.Proofs.HandlerFailures
import ChatBot.Proofs.JsonReading
import ChatBot.Proofs.Lowercase
import ChatBot.Proofs.MentionForms
import ChatBot.Proofs.MissingArgument
import ChatBot.Proofs.NormalForm
import ChatBot.Proofs.Partition
import ChatBot.Proofs.Recompile
import ChatBot.Proofs.Resolution
import ChatBot.Proofs.Running
import ChatBot.Proofs.RootOrder
import ChatBot.Proofs.StoredRoundTrip
import ChatBot.Proofs.TypedAccess
import ChatBot.Proofs.Walk
import ChatBot.Registry
import ChatBot.Text.CharClass
import ChatBot.Text.CaseClass
import ChatBot.Text.Lower
import ChatBot.Text.LowerTable
import ChatBot.Text.Numeral
import ChatBot.Text.Quoted
import ChatBot.Text.Words
