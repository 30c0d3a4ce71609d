import BarRules.Main
import BarRules.Proofs.Grammar.ViablePrefix
import BarRules.Proofs.Rule.Canonical
import BarRules.Proofs.RuleSet.CommaLists
import BarRules.Proofs.RuleSet.Containment
import BarRules.Proofs.RuleSet.Determination
import BarRules.Proofs.Session.Delivery
import BarRules.Proofs.Session.Selection
import BarRules.Proofs.Rule.Places
import BarRules.Proofs.Grammar.InOrder
import BarRules.Proofs.Target.Skeleton
import BarRules.Proofs.Token.BadOffsets
import BarRules.Proofs.Settings.Guards
import BarRules.Proofs.ConditionFile.ReadingBack
import BarRules.Proofs.Rule.Layout
import BarRules.Proofs.Target.Respelling
import BarRules.Proofs.Rule.Offsets
