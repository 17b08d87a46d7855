import PrefixCalc.Log.Configuration
import PrefixCalc.Log.Message
import PrefixCalc.Main
import PrefixCalc.Settings.Cache
import PrefixCalc.Proofs.Lexemes
import PrefixCalc.Proofs.Trees
import PrefixCalc.Proofs.Parentheses
import PrefixCalc.Proofs.ReaderRuns
import PrefixCalc.Proofs.Grammar
import PrefixCalc.Proofs.ReadErrors
import PrefixCalc.Proofs.FirstFault
import PrefixCalc.Proofs.Growth
import PrefixCalc.Proofs.ServiceAnswers
import PrefixCalc.Proofs.CanonicalText
import PrefixCalc.Proofs.JsonTokens
import PrefixCalc.Proofs.JsonValues
import PrefixCalc.Proofs.FormEncoding
import PrefixCalc.Proofs.Replies
import PrefixCalc.Proofs.RequestIdentity
import PrefixCalc.Proofs.RequestIsolation
import PrefixCalc.Proofs.LoadedSettings
import PrefixCalc.Proofs.Sessions
import PrefixCalc.Proofs.RemoteAgreement
import PrefixCalc.Proofs.ServiceLimits
import PrefixCalc.Proofs.Deliveries
import PrefixCalc.Proofs.SessionTraces
import PrefixCalc.Proofs.EvaluationRoute
import PrefixCalc.Proofs.ReadValues
import PrefixCalc.Proofs.FrontEnds
import PrefixCalc.Proofs.DeliveryClasses
import PrefixCalc.Proofs.MalformedNodes
import PrefixCalc.Proofs.ExactArithmetic
import PrefixCalc.Proofs.LeafValues
import PrefixCalc.Proofs.TokenPartition
import PrefixCalc.Proofs.Spacing
import PrefixCalc.Proofs.Rendering
import PrefixCalc.Proofs.EvaluationLog
import PrefixCalc.Proofs.ShortestDigits
import PrefixCalc.Proofs.RealFormat
import PrefixCalc.Proofs.RealTexts
import PrefixCalc.Proofs.Envelopes
import PrefixCalc.Proofs.ConstantFolding
import PrefixCalc.Proofs.ApplicationRuns
import PrefixCalc.Proofs.ResolvedOrigins
import PrefixCalc.Proofs.Descent
import PrefixCalc.Proofs.NestingBound
import PrefixCalc.Proofs.BracketScan
import PrefixCalc.Proofs.GrantedOrigins
