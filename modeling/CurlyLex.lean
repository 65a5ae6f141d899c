import CurlyLex.Main
import CurlyLex.Session
import CurlyLex.Proofs.CursorTracking
import CurlyLex.Proofs.Decomposition
import CurlyLex.Proofs.FirstFault
import CurlyLex.Proofs.PrintedText
import CurlyLex.Proofs.BlankedComments
import CurlyLex.Proofs.JoinedSources
import CurlyLex.Proofs.LineEndings
import CurlyLex.Proofs.Streaming
import CurlyLex.Proofs.SessionLedger
import CurlyLex.Proofs.Restart
import CurlyLex.Proofs.KeywordTables
import CurlyLex.Proofs.AfterErrors
import CurlyLex.Proofs.TraceRecords
import CurlyLex.Proofs.PositionLookup
import CurlyLex.Proofs.CaretAlignment
import CurlyLex.Proofs.Repairs
import CurlyLex.Proofs.ReportLimits
import CurlyLex.Proofs.Progress
import CurlyLex.Proofs.NumberExpression
import CurlyLex.Proofs.PrintedTokens
import CurlyLex.Proofs.ErrorMessages
import CurlyLex.Proofs.GapSkipping
import CurlyLex.Proofs.LineRecovery
