import Scopelight.Unicode.CaseFold
import Scopelight.Unicode.LowerCase
import Scopelight.Unicode.White
import Scopelight.Text.Bytes
import Scopelight.Text.Columns
import Scopelight.Text.Hex
import Scopelight.Text.Quoted
import Scopelight.Text.Slash
import Scopelight.Json.Decode
import Scopelight.Json.Parser
import Scopelight.Json.Printer
import Scopelight.Toml.Parser
import Scopelight.Pattern.Engine
import Scopelight.Scope
import Scopelight.State
import Scopelight.Grammar.Load
import Scopelight.Line.Tokenize
import Scopelight.TokenCache
import Scopelight.Color
import Scopelight.Style
import Scopelight.Metadata
import Scopelight.Theme.Basic
import Scopelight.Paint
import Scopelight.Language
import Scopelight.Snbt.Grammar
import Scopelight.Snbt.Language
import Scopelight.Snbt.Theme
import Scopelight.Config
import Scopelight.Provider
import Scopelight.Proofs.EditingSession
import Scopelight.Proofs.TokenTiling
import Scopelight.Proofs.OpenSpans
import Scopelight.Proofs.MatchPriority
import Scopelight.Proofs.PassTickets
import Scopelight.Proofs.InertElements
import Scopelight.Proofs.LineStartAnchor
import Scopelight.Proofs.EncodedColors
import Scopelight.Proofs.UnmatchedLines
import Scopelight.Proofs.ProviderLifecycle
import Scopelight.Proofs.RegisteredLanguage
import Scopelight.Proofs.SnbtText
import Scopelight.Proofs.TicketHistory
import Scopelight.Proofs.ScanProgress
import Scopelight.Proofs.SnbtStrings
import Scopelight.Proofs.SnbtNesting
import Scopelight.Proofs.CandidateWalk
import Scopelight.Proofs.CapturedScopes
import Scopelight.Proofs.PlainReading
import Scopelight.Proofs.SupportedPatterns
import Scopelight.Proofs.RefusedGrammars
import Scopelight.Proofs.PatternParts
import Scopelight.Proofs.ThinnedExpressions
import Scopelight.Proofs.ThinnedReading
import Scopelight.Proofs.ClosingTemplates
import Scopelight.Proofs.WholeClasses
import Scopelight.Proofs.InertSpans
import Scopelight.Proofs.StrictLoading
import Scopelight.Proofs.DecidingRules
import Scopelight.Proofs.PaletteLayout
import Scopelight.Proofs.LiteralClosing
import Scopelight.Proofs.MinimalUpdate
import Scopelight.Proofs.CheckedPainting
import Scopelight.Proofs.PaintedPrefix
import Scopelight.Proofs.CheckedLoading
import Scopelight.Proofs.SplicedLines
import Scopelight.Proofs.RecoloredLines
import Scopelight.Proofs.EscapedText
import Scopelight.Proofs.NotedFaults
import Scopelight.Proofs.FileExtensions
import Scopelight.Proofs.EndlessSpans
import Scopelight.Proofs.SavedStates
import Scopelight.Proofs.ColorTexts
import Scopelight.Proofs.WrittenConfigurations
import Scopelight.Proofs.SelectedAncestors
import Scopelight.Proofs.ConsistentColumns
import Scopelight.Proofs.SelectorSegments
import Scopelight.Proofs.FilledReferences
import Scopelight.Proofs.SavedAnchors
import Scopelight.Proofs.EmptySpanGuard
