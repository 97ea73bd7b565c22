import PacketReplay.Main
import PacketReplay.Session.Calls
import PacketReplay.Proofs.StoreRun
import PacketReplay.Proofs.Refusal
import PacketReplay.Proofs.Sessions
import PacketReplay.Proofs.Paging
import PacketReplay.Proofs.Forgetting
import PacketReplay.Proofs.EditTarget
import PacketReplay.Proofs.ReadBack
import PacketReplay.Proofs.PacketText
import PacketReplay.Proofs.ReportText
import PacketReplay.Proofs.HiddenBodies
import PacketReplay.Proofs.Admission
import PacketReplay.Proofs.ToolAnswers
import PacketReplay.Proofs.HeaderOutcome
import PacketReplay.Proofs.BroughtHeaders
import PacketReplay.Proofs.LiteralMatches
import PacketReplay.Proofs.ResentAgain
import PacketReplay.Proofs.Waiting
import PacketReplay.Proofs.ResendDecision
import PacketReplay.Proofs.HistoryAnswer
import PacketReplay.Proofs.CanonicalBodies
import PacketReplay.Proofs.Pacing
import PacketReplay.Proofs.PlainPatterns
import PacketReplay.Proofs.Utf8Bytes
import PacketReplay.Proofs.PlainSearch
import PacketReplay.Proofs.PlainReplacement
import PacketReplay.Proofs.LoadedConfig
import PacketReplay.Proofs.HeaderOps
import PacketReplay.Proofs.StableToken
import PacketReplay.Proofs.Redirections
