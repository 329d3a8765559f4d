import RegexTokens.Cli.Spelling
import RegexTokens.Location
import RegexTokens.Main
import RegexTokens.Proofs.FaultTheorems
import RegexTokens.Proofs.FileInputTheorems
import RegexTokens.Proofs.GroupBodyTheorems
import RegexTokens.Proofs.JsonTheorems
import RegexTokens.Proofs.LineTheorems
import RegexTokens.Proofs.LocationTheorems
import RegexTokens.Proofs.NestingTheorems
import RegexTokens.Proofs.NoticeTheorems
import RegexTokens.Proofs.OverrunTheorems
import RegexTokens.Proofs.PositionTheorems
import RegexTokens.Proofs.QuotedTheorems
import RegexTokens.Proofs.RecoveryTheorems
import RegexTokens.Proofs.RenamingTheorems
import RegexTokens.Proofs.SessionTheorems
import RegexTokens.Proofs.SettledTheorems
import RegexTokens.Proofs.ShapeTheorems
import RegexTokens.Proofs.TextTheorems
import RegexTokens.Proofs.TraceTheorems
import RegexTokens.Recovery
import RegexTokens.Session
import RegexTokens.Shape
import RegexTokens.Storage.FileTree
import RegexTokens.Stream
import RegexTokens.TokenTrace
