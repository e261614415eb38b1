import Reckon.Main
import Reckon.Proofs.Balance
import Reckon.Proofs.Tiling
import Reckon.Proofs.Signs
import Reckon.Proofs.Replay
import Reckon.Proofs.WordMoves
import Reckon.Proofs.Widening
import Reckon.Proofs.UnknownSymbols
import Reckon.Proofs.LeftOut
import Reckon.Proofs.Cuts
import Reckon.Proofs.MinusForPlus
import Reckon.Proofs.ExtraNegation
import Reckon.Proofs.UnaryPlus
import Reckon.Proofs.WholeTexts
import Reckon.Proofs.Filing
import Reckon.Proofs.TextOrdering
import Reckon.Proofs.StoreHistory
import Reckon.Proofs.UsedNames
import Reckon.Proofs.CalculatorRuns
import Reckon.Proofs.LetterCase
import Reckon.Proofs.SmallLexemes
import Reckon.Proofs.LettersOutsideQuotes
import Reckon.Proofs.Renaming
import Reckon.Proofs.SmallTokens
import Reckon.Proofs.CaseBlindness
import Reckon.Proofs.SpanTexts
import Reckon.Proofs.InstantTexts
import Reckon.Proofs.QuotedConstants
import Reckon.Proofs.PatternPieces
import Reckon.Proofs.RemaindersPowers
import Reckon.Proofs.FinalSigmas
import Reckon.Proofs.Respacing
import Reckon.Proofs.ValueOrder
import Reckon.Proofs.InstantDifferences
import Reckon.Proofs.NotANumber
import Reckon.Proofs.WrittenOrder
import Reckon.Proofs.InstantOrder
import Reckon.Proofs.Equality
import Reckon.Proofs.JsonValues
import Reckon.Proofs.ElementPaths
import Reckon.Proofs.StandardCalls
import Reckon.Proofs.Extremes
import Reckon.Proofs.Sums
import Reckon.Proofs.SpanParts
import Reckon.Proofs.DateParts
import Reckon.Proofs.FirstFailure
import Reckon.Proofs.LongestSymbols
import Reckon.Proofs.NumberConstants
import Reckon.Proofs.SpanForms
import Reckon.Proofs.CommentEnds
import Reckon.Proofs.Rounding
import Reckon.Proofs.ShownLexemes
import Reckon.Proofs.Overflow
import Reckon.Proofs.DecimalForms
