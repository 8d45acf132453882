import ParamRules.CommandLine.Basic
import ParamRules.Files.Tree
import ParamRules.Fixture.Decode
import ParamRules.Fixture.Directory
import ParamRules.Main
import ParamRules.Proofs.CommandLine.Arguments
import ParamRules.Proofs.CommandLine.Checking
import ParamRules.Proofs.CommandLine.Failing
import ParamRules.Proofs.CommandLine.FeedingBack
import ParamRules.Proofs.CommandLine.Groups
import ParamRules.Proofs.CommandLine.Reporting
import ParamRules.Proofs.Config.Decoding
import ParamRules.Proofs.Config.Logging
import ParamRules.Proofs.Config.Sanitizing
import ParamRules.Proofs.Config.Settling
import ParamRules.Proofs.Fixture.Loading
import ParamRules.Proofs.Fixture.Verdict
import ParamRules.Proofs.Json.Overlay
import ParamRules.Proofs.Request.Building
import ParamRules.Proofs.Request.Layering
import ParamRules.Proofs.Request.Layers
import ParamRules.Proofs.Rule.Decision
import ParamRules.Proofs.Rule.FirstMatch
import ParamRules.Proofs.Rule.Keys
import ParamRules.Proofs.Rule.Logging
import ParamRules.Proofs.Rule.Pushing
import ParamRules.Proofs.Rule.Rearranging
import ParamRules.Proofs.Rule.Threshold
import ParamRules.Proofs.RuleSet.Independence
import ParamRules.Proofs.RuleSet.Joining
import ParamRules.Proofs.RuleSet.Limits
import ParamRules.Proofs.RuleSet.Printing
import ParamRules.Proofs.RuleSet.Tracing
import ParamRules.Proofs.Text.Integer
import ParamRules.Proofs.Wording
