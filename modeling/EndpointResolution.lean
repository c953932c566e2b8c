import EndpointResolution.Evaluation.RuleSet
import EndpointResolution.Function.Registry
import EndpointResolution.Json.Reader
import EndpointResolution.Typing.Rules
import EndpointResolution.Proofs.PathText
import EndpointResolution.Proofs.TemplateText
import EndpointResolution.Proofs.Composition
import EndpointResolution.Proofs.Likeness
import EndpointResolution.Proofs.Admission
import EndpointResolution.Proofs.Signature
import EndpointResolution.Proofs.Agreement
import EndpointResolution.Proofs.ExprSoundness
import EndpointResolution.Proofs.Binding
import EndpointResolution.Proofs.FirstMatch
import EndpointResolution.Proofs.RuleSoundness
import EndpointResolution.Proofs.RuleSetSoundness
import EndpointResolution.Proofs.Arguments
import EndpointResolution.Proofs.Noninterference
import EndpointResolution.Proofs.JsonArguments
import EndpointResolution.Proofs.ScopeEffects
import EndpointResolution.Proofs.ExprNarrowing
import EndpointResolution.Proofs.RuleNarrowing
import EndpointResolution.Proofs.Exhaustive
import EndpointResolution.Proofs.CallSites
import EndpointResolution.Proofs.Numerals
import EndpointResolution.Proofs.Subtypes
import EndpointResolution.Proofs.RootScope
import EndpointResolution.Proofs.SameValues
import EndpointResolution.Proofs.Combinators
import EndpointResolution.Proofs.Attributes
import EndpointResolution.Proofs.MappedCalls
import EndpointResolution.Proofs.TemplateValue
import EndpointResolution.Proofs.Decoding
import EndpointResolution.Proofs.JsonRoundTrip
import EndpointResolution.Proofs.Slices
import EndpointResolution.Proofs.HostLabels
import EndpointResolution.Proofs.UrlParts
import EndpointResolution.Proofs.ScopeTrace
import EndpointResolution.Proofs.Hints
import EndpointResolution.Proofs.ErrorLocations
import EndpointResolution.Proofs.EndpointAssembly
import EndpointResolution.Proofs.Erasure
import EndpointResolution.Proofs.SingleWrappers
import EndpointResolution.Proofs.SpelledOut
